import Mathlib
import SqlCompose.Dialect.Basic

/-!
# Matching patterns

How an engine reads the pattern of a LIKE operator, and which texts it matches. A percent sign is
any run of characters and an underscore any one; what stands after a backslash is that character. On
SQL Server a set of characters may stand in brackets. A list of tests matches as many characters as
it has members.
-/

namespace SqlCompose

namespace Like

/-- A character of a pattern, bare or after a backslash. -/
inductive Symbol
  | bare (c : Char)
  | escaped (c : Char)
  deriving DecidableEq

/-- What one character of the subject is compared with. -/
inductive Test
  | any
  | is (c : Char)
  | oneOf (set : List Symbol)
  deriving DecidableEq

/-- What a pattern is made of. -/
inductive Item
  | run
  | one (test : Test)
  deriving DecidableEq

/-! ### Reading patterns -/

/-- The symbols of a pattern; a backslash at the end is none. -/
def symbols? : List Char → Option (List Symbol)
  | [] => some []
  | ['\\'] => none
  | '\\' :: c :: cs => (symbols? cs).map (.escaped c :: ·)
  | c :: cs => (symbols? cs).map (.bare c :: ·)

/-- What a symbol outside of brackets stands for. -/
def Symbol.item : Symbol → Item
  | .bare c => if c = '%' then .run else if c = '_' then .one .any else .one (.is c)
  | .escaped c => .one (.is c)

/-- The items of a pattern with sets in brackets, where `set?` is what has been read of a set that
is not closed yet. -/
def itemsWithSets? : (set? : Option (List Symbol)) → List Symbol → Option (List Item)
  | none, [] => some []
  | some _, [] => none
  | none, u :: us =>
    if u = .bare '[' then itemsWithSets? (some []) us
    else (itemsWithSets? none us).map (u.item :: ·)
  | some set, u :: us =>
    if u = .bare ']' then (itemsWithSets? none us).map (.one (.oneOf set) :: ·)
    else itemsWithSets? (some (set ++ [u])) us

/-! ### Matching subjects -/

def Symbol.char : Symbol → Char
  | .bare c => c
  | .escaped c => c

/-- Whether a character is in a set of characters and of ranges, by code point. -/
def isIn (x : Char) : List Symbol → Bool
  | [] => false
  | first :: .bare '-' :: last :: set => (first.char ≤ x && x ≤ last.char) || isIn x set
  | u :: set => u.char == x || isIn x set

/-- Whether a character passes a test; a set that starts with a caret admits what is not in it. -/
def Test.admits : Test → Char → Bool
  | .any, _ => true
  | .is c, x => c == x
  | .oneOf (.bare '^' :: set), x => !isIn x set
  | .oneOf set, x => isIn x set

/-- Whether a character passes a test, as a statement. -/
abbrev Test.Passes (test : Test) (c : Char) : Prop := test.admits c = true

/-- Whether the items of a pattern match all of a subject. -/
def accepts : List Item → List Char → Bool
  | [], s => s.isEmpty
  | .run :: items, s => s.tails.any (accepts items)
  | .one _ :: _, [] => false
  | .one test :: items, c :: s => test.admits c && accepts items s

end Like

namespace Dialect

/-- The items of a pattern as an engine reads it. -/
def patternItems? (d : Dialect) (pattern : String) : Option (List Like.Item) :=
  (Like.symbols? pattern.toList).bind fun us =>
    if d = .mssql then Like.itemsWithSets? none us else some (us.map Like.Symbol.item)

/-- Whether a subject is like a pattern in which the backslash escapes; what is no pattern matches
nothing. -/
def isLike (d : Dialect) (pattern subject : String) : Bool :=
  (d.patternItems? pattern).any (Like.accepts · subject.toList)

end Dialect

namespace Like

variable {items : List Item} {tests : List Test} {s v : List Char}

/-! ### What items match -/

@[simp] lemma accepts_nil : accepts [] s = true ↔ s = [] := by
  simp [accepts]

lemma accepts_run_cons : accepts (.run :: items) s = true ↔
    ∃ t, t <:+ s ∧ accepts items t = true := by
  simp [accepts]

lemma accepts_run : accepts [.run] s = true := by
  rw [accepts_run_cons]
  exact ⟨[], List.nil_suffix, rfl⟩

/-- Tests match as many characters as there are, one by one. -/
lemma accepts_map_one_append : accepts (tests.map .one ++ items) s = true ↔
    ∃ t rest, s = t ++ rest ∧ List.Forall₂ Test.Passes tests t ∧
      accepts items rest = true := by
  induction tests generalizing s with
  | nil => simp
  | cons test tests ih =>
    cases s with
    | nil => simp [accepts, List.forall₂_cons_left_iff]
    | cons c s =>
      rw [List.map_cons, List.cons_append, accepts, Bool.and_eq_true, ih]
      constructor
      · rintro ⟨hc, t, rest, rfl, ht, hrest⟩
        exact ⟨c :: t, rest, rfl, .cons hc ht, hrest⟩
      · rintro ⟨t, rest, hs, ht, hrest⟩
        cases ht with
        | cons hc ht =>
          obtain ⟨rfl, rfl⟩ := List.cons.inj hs
          exact ⟨hc, _, rest, rfl, ht, hrest⟩

/-- Tests without runs match a subject of their length, character by character. -/
lemma accepts_map_one : accepts (tests.map .one) s = true ↔
    List.Forall₂ Test.Passes tests s := by
  rw [← List.append_nil (tests.map Item.one), accepts_map_one_append]
  simp

/-- The tests of the characters of a text match that text alone. -/
lemma forall₂_admits_is : List.Forall₂ Test.Passes (v.map .is) s ↔
    s = v := by
  rw [List.forall₂_map_left_iff]
  have hpasses : (fun a => (Test.is a).Passes) = Eq := by
    funext a c
    simp [Test.Passes, Test.admits]
  rw [hpasses, List.forall₂_eq_eq_eq, eq_comm]

end Like

end SqlCompose
