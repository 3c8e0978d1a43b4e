import Mathlib
import SqlCompose.Proofs.Reading.Predicate

/-!
# The truth of predicates

What an engine makes of a text on a row of a table. An interpretation says what operands stand for,
a null or a content, and which contents are equal. A null check is always known; a comparison with a
null is unknown; tuples are compared component by component, and a membership is the disjunction of
the comparisons with the members. A text is then what the connectives make of its predicates, and no
text at all asks nothing.
-/

namespace SqlCompose

/-! ### Predicates -/

/-- What is said of an operand. -/
inductive Saying
  | isNull
  | equals (y : List Item)
  | among (ys : List (List Item))
  deriving DecidableEq

/-- An operand with what is said of it, or denied. -/
structure Predicate where
  subject : List Item
  holds : Bool
  saying : Saying
  deriving DecidableEq

def Item.comma : Item := .token (.symbol ',')

/-- Read a single operand. -/
def operand? (is : List Item) : Option (List Item) :=
  if is.isEmpty || is.any Item.isOperator then none else some is

namespace Saying

/-- Read a list of members. -/
def among? : List Item → Option Saying
  | [.group ts _] => (items? ts).map fun is => .among (is.splitOn .comma)
  | _ => none

/-- Read what is said of an operand, or denied. -/
def ofItems? : List Item → Option (Bool × Saying)
  | [] => none
  | i :: is =>
    if i = .token (.symbol '=') then (operand? is).map fun y => (true, .equals y)
    else if i = .token (.symbol '<') then
      match is with
      | j :: is => if j = .token (.symbol '>') then (operand? is).map fun y => (false, .equals y)
        else none
      | [] => none
    else if i.isKeyword "IS" then
      match is with
      | [j] => if j.isKeyword "NULL" then some (true, .isNull) else none
      | [j, k] => if j.isKeyword "NOT" && k.isKeyword "NULL" then some (false, .isNull) else none
      | _ => none
    else if i.isKeyword "IN" then (among? is).map fun saying => (true, saying)
    else if i.isKeyword "NOT" then
      match is with
      | j :: is => if j.isKeyword "IN" then (among? is).map fun saying => (false, saying) else none
      | [] => none
    else none

end Saying

def Predicate.ofItems? (is : List Item) : Option Predicate :=
  (operand? (is.takeWhile (!·.isOperator))).bind fun x =>
    (Saying.ofItems? (is.dropWhile (!·.isOperator))).map fun (holds, saying) => ⟨x, holds, saying⟩

/-! ### Interpretations -/

/-- The comparison of what two operands stand for. -/
def Truth.ofComparison {α : Type*} (equal : α → α → Bool) : Option α → Option α → Truth
  | some x, some y => .ofBool (equal x y)
  | _, _ => .unknown

/-- What operands stand for on a row of a table, a null or a content, and what is equal. -/
structure Interpretation (α : Type*) where
  /-- What an operand stands for that has no parentheses around it. -/
  operand : List Token → Option α
  equal : α → α → Bool
  /-- One is not zero. -/
  one_ne_zero : Truth.ofComparison equal (operand [.word ['1']]) (operand [.word ['0']]) = .no

/-- The components of a tuple in parentheses; a single operand is its own component. -/
def components (is : List Item) : List (List Item) :=
  match is with
  | [.group ts _] =>
    match items? ts with
    | some js => if js.contains .comma then js.splitOn .comma else [is]
    | none => [is]
  | is => [is]

namespace Interpretation

variable {α : Type*} (S : Interpretation α)

/-- What an operand stands for, with or without parentheses around it. -/
def denote : List Item → Option α
  | [.group ts _] => S.operand ts
  | is => S.operand (is.flatMap Item.tokens)

/-- What the components of a tuple stand for. -/
def denoteAll (is : List Item) : List (Option α) := (components is).map S.denote

/-- The comparison of two tuples of the same width. -/
def compare? (xs ys : List (Option α)) : Option Truth :=
  if xs.length = ys.length then some (.all (List.zipWith (.ofComparison S.equal) xs ys)) else none

/-- The truth of what is said of a tuple; only a single operand is checked for null. -/
def says? (xs : List (Option α)) : Saying → Option Truth
  | .isNull =>
    match xs with
    | [x] => some (.ofBool x.isNone)
    | _ => none
  | .equals y => S.compare? xs (S.denoteAll y)
  | .among ys => (ys.mapM fun y => S.compare? xs (S.denoteAll y)).map Truth.any

def truth? (p : Predicate) : Option Truth :=
  (S.says? (S.denoteAll p.subject) p.saying).map fun v => if p.holds then v else v.not

/-- The truth of the predicate that some tokens are read as. -/
def atom? (ts : List Token) : Option Truth :=
  ((items? ts).bind Predicate.ofItems?).bind S.truth?

/-- The truth of the predicate that some tokens are read as, if they can be read. -/
def assign (ts : List Token) : Truth := (S.atom? ts).getD .unknown

/-- The truth of a text, if all of it can be read; no text asks nothing. -/
def value? (d : Dialect) (s : String) : Option Truth :=
  if s.isEmpty then some .yes
  else (d.read? s).bind fun f =>
    if f.atoms.all fun ts => (S.atom? ts).isSome then some (f.value S.assign) else none

end Interpretation

/-! ### Operands -/

/-- Items that something may be said of: an operand without operators outside parentheses. -/
structure IsSubject (is : List Item) : Prop extends IsOperand is where
  noOperator : ∀ i ∈ is, i.isOperator = false

/-- The name of a column: an operand that is neither several nor a tuple. -/
structure IsColumn (is : List Item) : Prop extends IsSubject is where
  noComma : Item.comma ∉ is
  single : components is = [is]

/-- A text that is read as the name of a column with this cell. -/
def Interpretation.ReadsColumn {α : Type*} (S : Interpretation α) (d : Dialect) (q : String)
    (x : Option α) : Prop :=
  ∃ is, d.items? q = some is ∧ IsColumn is ∧ S.denote is = x

/-- A text that is read as a tuple of these contents. -/
def Interpretation.ReadsTuple {α : Type*} (S : Interpretation α) (d : Dialect) (q : String)
    (xs : List (Option α)) : Prop :=
  ∃ is, d.items? q = some is ∧ IsSubject is ∧ S.denoteAll is = xs

/-- A single column is a tuple of one component. -/
lemma Interpretation.ReadsColumn.readsTuple {α : Type*} {S : Interpretation α} {d : Dialect}
    {q : String} {x : Option α} (h : S.ReadsColumn d q x) : S.ReadsTuple d q [x] := by
  obtain ⟨is, his, hcolumn, hx⟩ := h
  exact ⟨is, his, hcolumn.toIsSubject, by rw [denoteAll, hcolumn.single, List.map_singleton, hx]⟩

namespace Item

lemma isOperator_of_isScalarPart {i : Item} (h : i.isScalarPart = true) :
    i.isOperator = false := by
  match i with
  | .token (.word cs) =>
    rw [isScalarPart, Bool.and_eq_true, Bool.not_eq_true'] at h
    exact h.2
  | .token (.quoted _ _) => rfl
  | .token (.symbol c) =>
    obtain rfl : c = '-' := by simpa [isScalarPart] using h
    rfl
  | .group _ _ => simp [isScalarPart] at h

lemma ne_comma_of_isScalarPart {i : Item} (h : i.isScalarPart = true) : i ≠ comma := by
  rintro rfl
  exact absurd h (by decide)

end Item

variable {is : List Item}

/-- Without operators the items are one operand. -/
lemma operand?_eq_self (hne : is ≠ []) (h : ∀ i ∈ is, i.isOperator = false) :
    operand? is = some is := by
  have hempty : is.isEmpty = false := by simpa using hne
  have hany : is.any Item.isOperator = false := by simpa using h
  rw [operand?, hempty, hany]
  rfl

/-- A scalar is its own component. -/
lemma components_of_isScalarPart (h : ∀ i ∈ is, i.isScalarPart = true) :
    components is = [is] := by
  unfold components
  split
  · simp [Item.isScalarPart] at h
  · rfl

/-- What is said of an operand. -/
lemma Predicate.ofItems?_append {i : Item} {js : List Item} (hne : is ≠ [])
    (h : ∀ i ∈ is, i.isOperator = false) (hi : i.isOperator = true) :
    Predicate.ofItems? (is ++ i :: js) =
      (Saying.ofItems? (i :: js)).map fun (holds, saying) => ⟨is, holds, saying⟩ := by
  have hbefore : ∀ k ∈ is, (!k.isOperator) = true := by simpa using h
  rw [Predicate.ofItems?, List.takeWhile_append_of_pos hbefore,
    List.dropWhile_append_of_pos hbefore]
  simp [hi, operand?_eq_self hne h]

end SqlCompose
