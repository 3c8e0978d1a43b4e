import Mathlib
import SqlCompose.Proofs.Reading.Token

/-!
# Reading tokens as a formula

Tokens are put together by their parentheses to items, and the items are read as a formula: NOT
binds tighter than AND, and AND tighter than OR. The AND after a BETWEEN belongs to it. What stands
between the connectives is an atomic predicate, unless it is a formula in parentheses.
-/

namespace SqlCompose

/-- A formula over atomic predicates. -/
inductive Formula
  | atom (ts : List Token)
  | not (f : Formula)
  | and (f g : Formula)
  | or (f g : Formula)
  deriving DecidableEq

namespace Formula

/-- The truth value of a formula under an assignment to its atomic predicates. -/
def eval (σ : List Token → Bool) : Formula → Bool
  | atom ts => σ ts
  | not f => !f.eval σ
  | and f g => f.eval σ && g.eval σ
  | or f g => f.eval σ || g.eval σ

def atoms : Formula → List (List Token)
  | atom ts => [ts]
  | not f => f.atoms
  | and f g | or f g => f.atoms ++ g.atoms

/-- Some formulas under one connective. -/
def combine (op : Formula → Formula → Formula) : List Formula → Option Formula
  | [] => none
  | f :: fs => some (fs.foldl op f)

end Formula

/-- A token outside parentheses, or what stands in a pair of them. -/
inductive Item
  | token (t : Token)
  /-- The tokens between the parentheses, and the formula that they are read as. -/
  | group (ts : List Token) (inside : Option Formula)
  deriving DecidableEq

namespace Item

def tokens : Item → List Token
  | token t => [t]
  | group ts _ => .symbol '(' :: (ts ++ [.symbol ')'])

def isKeyword (keyword : String) : Item → Bool
  | token (.word cs) => cs.map Char.toUpper == keyword.toList
  | _ => false

end Item

/-! ### Precedence -/

namespace Formula

/-- Whether a BETWEEN still waits for its AND after an item. -/
def awaits (waiting : Bool) (i : Item) : Bool :=
  !i.isKeyword "AND" && (waiting || i.isKeyword "BETWEEN")

/-- The parts of a conjunction, where a BETWEEN may wait for its AND. -/
def conjuncts (waiting : Bool) : List Item → List (List Item)
  | [] => [[]]
  | i :: is =>
    if i.isKeyword "AND" && !waiting then [] :: conjuncts (awaits waiting i) is
    else (conjuncts (awaits waiting i) is).modifyHead (i :: ·)

def disjuncts (is : List Item) : List (List Item) := is.splitOnP (Item.isKeyword "OR")

/-- Whether some items are a query. -/
def isQuery (is : List Item) : Bool := is.head?.any (Item.isKeyword "SELECT")

/-- Read a predicate, which may be negated. -/
def ofPredicate? : List Item → Option Formula
  | [] => none
  | i :: is =>
    if i.isKeyword "NOT" then (ofPredicate? is).map .not
    else match i, is with
      | .group _ inside, [] => inside
      | i, is => some (.atom ((i :: is).flatMap Item.tokens))

def ofConjunction? (is : List Item) : Option Formula :=
  if is.foldl awaits false then none
  else ((conjuncts false is).mapM ofPredicate?).bind (combine .and)

/-- Read items as a formula; a query is none. -/
def ofItems? (is : List Item) : Option Formula :=
  if isQuery is then none
  else ((disjuncts is).mapM ofConjunction?).bind (combine .or)

/-- Read what stands in parentheses; a query in parentheses is an atomic predicate. -/
def ofGroup? (is : List Item) : Option Formula :=
  if isQuery is then some (.atom (.symbol '(' :: (is.flatMap Item.tokens ++ [.symbol ')'])))
  else ofItems? is

/-! ### Parentheses -/

/-- Read a token, where items stand in parentheses that are still open, the innermost first. -/
def push (frames : List (List Item)) (t : Token) : Option (List (List Item)) :=
  if t = .symbol '(' then some ([] :: frames)
  else if t = .symbol ')' then
    match frames with
    | inner :: outer :: frames =>
      some ((outer ++ [.group (inner.flatMap Item.tokens) (ofGroup? inner)]) :: frames)
    | _ => none
  else
    match frames with
    | frame :: frames => some ((frame ++ [.token t]) :: frames)
    | [] => none

end Formula

/-- The items of some tokens, if their parentheses are paired. -/
def items? (ts : List Token) : Option (List Item) :=
  match ts.foldlM Formula.push [[]] with
  | some [is] => some is
  | _ => none

/-- The items of a text. -/
def Dialect.items? (d : Dialect) (s : String) : Option (List Item) :=
  (tokens? d s).bind SqlCompose.items?

def Dialect.read? (d : Dialect) (s : String) : Option Formula :=
  (d.items? s).bind Formula.ofItems?

open Formula

/-! ### Items of texts that meet -/

/-- Frames whose outermost one stands behind other items, in parentheses that are open before. -/
def graft (before : List Item) (outside : List (List Item)) : List (List Item) → List (List Item)
  | [] => []
  | [base] => (before ++ base) :: outside
  | inner :: outer :: frames => inner :: graft before outside (outer :: frames)

/-- Frames inside a parenthesis are not touched by what stands before it. -/
lemma graft_cons_of_ne_nil {before : List Item} {outside frames : List (List Item)}
    (inner : List Item) (h : frames ≠ []) :
    graft before outside (inner :: frames) = inner :: graft before outside frames := by
  obtain ⟨outer, frames, rfl⟩ := List.exists_cons_of_ne_nil h
  rfl

lemma push_ne_nil {frames frames' : List (List Item)} {t : Token}
    (h : push frames t = some frames') : frames' ≠ [] := by
  unfold push at h
  split_ifs at h
  · obtain rfl := Option.some.inj h
    simp
  · split at h
    · obtain rfl := Option.some.inj h
      simp
    · simp at h
  · split at h
    · obtain rfl := Option.some.inj h
      simp
    · simp at h

/-- Reading a token does not depend on what stands before the outermost frame. -/
lemma push_graft {before : List Item} {outside frames frames' : List (List Item)} {t : Token}
    (h : push frames t = some frames') (hne : frames ≠ []) :
    push (graft before outside frames) t = some (graft before outside frames') := by
  unfold push at h ⊢
  split_ifs at h ⊢
  · obtain rfl := Option.some.inj h
    rw [graft_cons_of_ne_nil [] hne]
  · match frames with
    | [] | [_] => simp at h
    | [inner, outer] =>
      obtain rfl := Option.some.inj h
      simp [graft]
    | inner :: outer :: next :: frames =>
      obtain rfl := Option.some.inj h
      simp [graft]
  · match frames with
    | [] => simp at h
    | [frame] =>
      obtain rfl := Option.some.inj h
      simp [graft]
    | frame :: outer :: frames =>
      obtain rfl := Option.some.inj h
      simp [graft]

lemma foldlM_push_graft {before : List Item} {outside frames frames' : List (List Item)}
    {ts : List Token} (h : ts.foldlM push frames = some frames') (hne : frames ≠ []) :
    ts.foldlM push (graft before outside frames) = some (graft before outside frames') := by
  induction ts generalizing frames with
  | nil =>
    obtain rfl := Option.some.inj h
    rfl
  | cons t ts ih =>
    -- a step never closes the outermost frame, which is why items may stand before it
    rw [List.foldlM_cons] at h ⊢
    obtain ⟨next, hnext, hrest⟩ := Option.bind_eq_some_iff.mp h
    rw [push_graft hnext hne]
    exact ih hrest (push_ne_nil hnext)

/-- Tokens whose parentheses are paired go behind what was read before. -/
lemma foldlM_push_eq {ts : List Token} {is : List Item} (h : items? ts = some is)
    (before : List Item) (outside : List (List Item)) :
    ts.foldlM push (before :: outside) = some ((before ++ is) :: outside) := by
  have hfold : ts.foldlM push [[]] = some [is] := by
    unfold items? at h
    split at h
    · rename_i heq
      obtain rfl := Option.some.inj h
      exact heq
    · simp at h
  have hgraft : ts.foldlM push (graft before outside [[]]) = some (graft before outside [is]) :=
    foldlM_push_graft hfold (by simp)
  simpa [graft] using hgraft

lemma items?_of_foldlM {ts : List Token} {is : List Item} (h : ts.foldlM push [[]] = some [is]) :
    items? ts = some is := by
  rw [items?, h]

variable {d : Dialect} {s t : String} {ts us : List Token} {is js : List Item}

/-- Items are read one text after the other. -/
lemma items?_append (hts : items? ts = some is) (hus : items? us = some js) :
    items? (ts ++ us) = some (is ++ js) := by
  refine items?_of_foldlM ?_
  rw [List.foldlM_append, foldlM_push_eq hts]
  exact foldlM_push_eq hus _ _

/-- A text in parentheses is one group. -/
lemma items?_parens (h : items? ts = some is) :
    items? (.symbol '(' :: (ts ++ [.symbol ')'])) =
      some [.group (is.flatMap Item.tokens) (ofGroup? is)] := by
  refine items?_of_foldlM ?_
  have hopen : push [[]] (.symbol '(') = some [[], []] := rfl
  rw [List.foldlM_cons, hopen, Option.bind_eq_bind, Option.bind_some, List.foldlM_append,
    foldlM_push_eq h]
  rfl

namespace Dialect

lemma items?_eq_some : d.items? s = some is ↔
    ∃ ts, tokens? d s = some ts ∧ SqlCompose.items? ts = some is := Option.bind_eq_some_iff

/-- Two texts that are apart have the items of each of them alone. -/
lemma items?_append (hs : d.items? s = some is) (ht : d.items? t = some js)
    (h : endsApart s = true ∨ startsApart t = true) : d.items? (s ++ t) = some (is ++ js) := by
  obtain ⟨ts, hts, his⟩ := items?_eq_some.mp hs
  obtain ⟨us, hus, hjs⟩ := items?_eq_some.mp ht
  exact items?_eq_some.mpr ⟨ts ++ us, tokens?_append hts hus h, SqlCompose.items?_append his hjs⟩

/-- A text in parentheses is one group, apart from everything. -/
lemma items?_parens (h : d.items? s = some is) :
    d.items? ("(" ++ s ++ ")") = some [.group (is.flatMap Item.tokens) (ofGroup? is)] := by
  obtain ⟨ts, hts, his⟩ := items?_eq_some.mp h
  have hopen : tokens? d "(" = some [.symbol '('] := by cases d <;> rfl
  have hclose : tokens? d ")" = some [.symbol ')'] := by cases d <;> rfl
  have hinside : tokens? d ("(" ++ s) = some (.symbol '(' :: ts) :=
    tokens?_append hopen hts (.inl (by decide))
  have hwhole : tokens? d ("(" ++ s ++ ")") = some (.symbol '(' :: (ts ++ [.symbol ')'])) :=
    tokens?_append hinside hclose (.inr (by decide))
  exact items?_eq_some.mpr ⟨_, hwhole, SqlCompose.items?_parens his⟩

end Dialect

/-! ### Reading back items -/

/-- The tokens of some frames, the innermost of which stands in the last parentheses. -/
def tokensOfFrames : List (List Item) → List Token
  | [] => []
  | [base] => base.flatMap Item.tokens
  | inner :: outer :: frames =>
    tokensOfFrames (outer :: frames) ++ .symbol '(' :: inner.flatMap Item.tokens

/-- Items at the end of the innermost frame give the last tokens. -/
lemma tokensOfFrames_concat (frame js : List Item) (frames : List (List Item)) :
    tokensOfFrames ((frame ++ js) :: frames) =
      tokensOfFrames (frame :: frames) ++ js.flatMap Item.tokens := by
  cases frames <;> simp [tokensOfFrames]

/-- A token that is pushed is the last one. -/
lemma tokensOfFrames_push {frames frames' : List (List Item)} {t : Token} (hne : frames ≠ [])
    (h : Formula.push frames t = some frames') :
    tokensOfFrames frames' = tokensOfFrames frames ++ [t] := by
  obtain ⟨frame, frames, rfl⟩ := List.exists_cons_of_ne_nil hne
  unfold Formula.push at h
  split_ifs at h with hopen hclose
  · obtain rfl := Option.some.inj h
    simp [tokensOfFrames, hopen]
  · split at h
    · rename_i heq
      obtain ⟨rfl, rfl⟩ := List.cons.inj heq
      obtain rfl := Option.some.inj h
      rw [tokensOfFrames_concat]
      simp [tokensOfFrames, Item.tokens, hclose]
    · simp at h
  · obtain rfl := Option.some.inj h
    rw [tokensOfFrames_concat]
    simp [Item.tokens]

/-- The items of some tokens have these tokens. -/
lemma flatMap_tokens_of_items? (h : items? ts = some is) :
    is.flatMap Item.tokens = ts := by
  have hfold (frames frames' : List (List Item)) (us : List Token) (hne : frames ≠ [])
      (hframes : us.foldlM Formula.push frames = some frames') :
      tokensOfFrames frames' = tokensOfFrames frames ++ us := by
    induction us generalizing frames with
    | nil =>
      obtain rfl := Option.some.inj hframes
      rw [List.append_nil]
    | cons t us ih =>
      rw [List.foldlM_cons] at hframes
      obtain ⟨next, hnext, hrest⟩ := Option.bind_eq_some_iff.mp hframes
      rw [ih next (push_ne_nil hnext) hrest, tokensOfFrames_push hne hnext, List.append_assoc]
      rfl
  have hpush : ts.foldlM Formula.push [[]] = some [is] := foldlM_push_eq h [] []
  simpa [tokensOfFrames] using hfold _ _ _ (by simp) hpush

/-- The items of a text are read back from their tokens. -/
lemma items?_flatMap_tokens (h : d.items? s = some is) :
    items? (is.flatMap Item.tokens) = some is := by
  obtain ⟨ts, -, his⟩ := Dialect.items?_eq_some.mp h
  rw [flatMap_tokens_of_items? his, his]

end SqlCompose
