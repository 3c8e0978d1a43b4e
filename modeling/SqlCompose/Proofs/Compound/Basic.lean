import Mathlib
import SqlCompose.Proofs.Reading.Formula

/-!
# Reading the structure of a union

The structure of a statement that selects, as an engine reads it. A statement in parentheses keeps
its own structure. Without parentheses the set operators associate to the left, and an ordering or a
limit may only stand after the last member, where it belongs to the whole.
-/

namespace SqlCompose

/-- The structure of a statement that selects. -/
inductive Compound
  /-- A SELECT without its ordering and limits. -/
  | select (ts : List Token)
  | union (all : Bool) (left right : Compound)
  /-- A statement whose rows are ordered or limited. -/
  | ordered (c : Compound) (ending : List Token)
  deriving DecidableEq

namespace Item

/-- Whether an item stands before a further member of a union. -/
def isUnion (i : Item) : Bool := i.isKeyword "UNION"

/-- Whether an ordering or a limit starts with an item. -/
def isEnding (i : Item) : Bool :=
  i.isKeyword "ORDER" || i.isKeyword "LIMIT" || i.isKeyword "OFFSET"

end Item

/-! ### The reader -/

namespace Compound

/-- A statement with its ordering and limits, if it has any. -/
def withEnding (c : Compound) (ts : List Token) : Compound := if ts.isEmpty then c else ordered c ts

/-- A further member of a union, and whether duplicates are kept. -/
def ofUnion : List Item → Bool × List Item
  | [] => (false, [])
  | i :: is => if i.isKeyword "ALL" then (true, is) else (false, i :: is)

/-- Read a member: a statement in parentheses, or a SELECT. -/
def ofMember? (read : List Token → Option Compound) : List Item → Option Compound
  | [.group ts _] => read ts
  | is => if Formula.isQuery is then some (select (is.flatMap Item.tokens)) else none

/-- Read further members of a union after what stands before them. -/
def ofUnions? (read : List Token → Option Compound) (c : Compound) :
    List (Bool × List Item) → Option Compound
  | [] => some c
  | (all, is) :: ps => (ofMember? read is).bind fun m => ofUnions? read (union all c m) ps

/-- Read a statement, given a reader of what stands in parentheses. -/
def ofItems? (read : List Token → Option Compound) (is : List Item) : Option Compound :=
  let ending := is.dropWhile (!·.isEnding)
  if ending.any Item.isUnion then none
  else match (is.takeWhile (!·.isEnding)).splitOnP Item.isUnion with
    | [] => none
    | first :: further =>
      ((ofMember? read first).bind fun c => ofUnions? read c (further.map ofUnion)).map
        (·.withEnding (ending.flatMap Item.tokens))

/-- Read some tokens as a statement, in which parentheses are less deep than a number. -/
def ofTokens? : ℕ → List Token → Option Compound
  | 0, _ => none
  | depth + 1, ts => (items? ts).bind (ofItems? (ofTokens? depth))

end Compound

/-- The structure of a text. Parentheses are never deeper than there are tokens. -/
def Dialect.compound? (d : Dialect) (s : String) : Option Compound :=
  (tokens? d s).bind fun ts => Compound.ofTokens? (ts.length + 1) ts

/-! ### Unions of members -/

/-- The keywords before a further member. -/
def unionItems (all : Bool) : List Item :=
  .token (.word "UNION".toList) :: if all then [.token (.word "ALL".toList)] else []

/-- Further members, each behind its keywords. -/
def furtherItems (ps : List (Bool × List Item)) : List Item :=
  ps.flatMap fun (all, is) => unionItems all ++ is

/-- Members with the keywords between them. -/
def joinUnions (first : List Item) (ps : List (Bool × List Item)) : List Item :=
  first ++ furtherItems ps

/-- Items that can stand between the keywords of a union. -/
structure IsUnited (is : List Item) : Prop where
  noUnion : ∀ i ∈ is, i.isUnion = false
  notAll : ∀ i ∈ is.head?, i.isKeyword "ALL" = false

/-- An ordering or limits, or nothing. -/
structure IsEnding (is : List Item) : Prop where
  starts : ∀ i ∈ is.head?, i.isEnding = true
  noUnion : ∀ i ∈ is, i.isUnion = false

variable {read : List Token → Option Compound} {first ending is : List Item} {c c' : Compound}
  {ps : List (Bool × List Item)}

lemma isUnited_of_isQuery (h : Formula.isQuery is = true) (hunion : ∀ i ∈ is, i.isUnion = false) :
    IsUnited is := by
  refine ⟨hunion, fun i hi => ?_⟩
  rw [Formula.isQuery, Option.mem_def.mp hi, Option.any_some] at h
  rw [Item.isKeyword.eq_def] at h ⊢
  split at h
  · rw [beq_iff_eq] at h
    simp [h]
  · simp at h

lemma isUnited_group (ts : List Token) (inside : Option Formula) :
    IsUnited [.group ts inside] := by
  constructor <;> simp [Item.isUnion, Item.isKeyword]

/-- Cutting at the keywords of a union gives back the members it was joined from. -/
lemma splitOnP_joinUnions (hfirst : ∀ i ∈ first, i.isUnion = false) (hps : ∀ p ∈ ps, IsUnited p.2) :
    (joinUnions first ps).splitOnP Item.isUnion =
      first :: ps.map fun (all, is) => (unionItems all).tail ++ is := by
  unfold joinUnions
  induction ps generalizing first with
  | nil =>
    rw [furtherItems, List.flatMap_nil, List.append_nil]
    exact List.splitOnP_eq_singleton hfirst
  | cons p ps ih =>
    obtain ⟨all, is⟩ := p
    rw [List.forall_mem_cons] at hps
    have htail : ∀ i ∈ (unionItems all).tail ++ is, i.isUnion = false := by
      rw [List.forall_mem_append]
      refine ⟨?_, hps.1.noUnion⟩
      cases all <;> simp [unionItems, Item.isUnion, Item.isKeyword]
    have hkeyword : (Item.token (.word "UNION".toList)).isUnion = true := by decide
    have hsplit := List.splitOnP_append_cons first
      ((unionItems all).tail ++ is ++ furtherItems ps) hkeyword
    rw [ih htail hps.2, List.splitOnP_eq_singleton hfirst] at hsplit
    exact hsplit

/-- A further member is read with its keyword, which tells whether duplicates are kept. -/
lemma ofUnion_tail (h : IsUnited is) (all : Bool) :
    Compound.ofUnion ((unionItems all).tail ++ is) = (all, is) := by
  cases all with
  | true => rfl
  | false =>
    cases is with
    | nil => rfl
    | cons i is =>
      have hall : i.isKeyword "ALL" = false := h.notAll i rfl
      exact if_neg (by simp [hall])

lemma map_ofUnion (hps : ∀ p ∈ ps, IsUnited p.2) :
    (ps.map fun (all, is) => (unionItems all).tail ++ is).map Compound.ofUnion = ps := by
  have hunion : ps.map (Compound.ofUnion ∘ fun (all, is) => (unionItems all).tail ++ is) =
      ps.map id := List.map_congr_left fun p hp => ofUnion_tail (hps p hp) p.1
  rw [List.map_map, hunion, List.map_id]

lemma dropWhile_append_ending (his : ∀ i ∈ is, i.isEnding = false)
    (hending : ∀ i ∈ ending.head?, i.isEnding = true) :
    (is ++ ending).takeWhile (!·.isEnding) = is ∧
      (is ++ ending).dropWhile (!·.isEnding) = ending := by
  have hbody : ∀ i ∈ is, (!i.isEnding) = true := by simpa using his
  rw [List.takeWhile_append_of_pos hbody, List.dropWhile_append_of_pos hbody]
  cases ending with
  | nil => simp
  | cons i ending =>
    have hi : i.isEnding = true := hending i rfl
    simp [hi]

namespace Compound

/-- Members that are read one by one are read as a union, with the ordering after them. -/
lemma ofItems?_joinUnions (hfirst : ∀ i ∈ first, i.isUnion = false) (hps : ∀ p ∈ ps, IsUnited p.2)
    (hbody : ∀ i ∈ joinUnions first ps, i.isEnding = false) (hending : IsEnding ending) :
    ofItems? read (joinUnions first ps ++ ending) =
      ((ofMember? read first).bind fun c => ofUnions? read c ps).map
        (·.withEnding (ending.flatMap Item.tokens)) := by
  obtain ⟨htake, hdrop⟩ := dropWhile_append_ending hbody hending.starts
  have hunion : ending.any Item.isUnion = false := by simpa using hending.noUnion
  simp only [ofItems?, htake, hdrop, hunion, splitOnP_joinUnions hfirst hps, map_ofUnion hps]
  rfl

/-! ### Members -/

/-- Items that are read as a member of a union with this structure, however deep they are. -/
structure IsMember (is : List Item) (c : Compound) : Prop where
  united : IsUnited is
  noEnding : ∀ i ∈ is, i.isEnding = false
  read : ∀ depth, (is.flatMap Item.tokens).length ≤ depth →
    ofMember? (ofTokens? depth) is = some c

/-- A member that starts with SELECT is read as a selection, whatever reads parentheses. -/
lemma ofMember?_of_isQuery (h : Formula.isQuery is = true) :
    ofMember? read is = some (select (is.flatMap Item.tokens)) := by
  unfold ofMember?
  split
  · simp [Formula.isQuery, Item.isKeyword] at h
  · rw [h]
    rfl

lemma isMember_select (h : Formula.isQuery is = true) (hunion : ∀ i ∈ is, i.isUnion = false)
    (hending : ∀ i ∈ is, i.isEnding = false) : IsMember is (select (is.flatMap Item.tokens)) :=
  ⟨isUnited_of_isQuery h hunion, hending, fun _ _ => ofMember?_of_isQuery h⟩

/-- A statement in parentheses is a member with its own structure. -/
lemma isMember_group {ts : List Token} (inside : Option Formula)
    (h : ∀ depth, ts.length < depth → ofTokens? depth ts = some c) :
    IsMember [.group ts inside] c := by
  refine ⟨isUnited_group ts inside, by simp [Item.isEnding, Item.isKeyword], fun depth hdepth => ?_⟩
  have hparens : ([Item.group ts inside].flatMap Item.tokens).length = ts.length + 2 := by
    simp [Item.tokens]
  exact h depth (by omega)

/-- Tokens whose members are read are read as their union, with the ordering after them. -/
lemma ofTokens?_joinUnions
    (hitems : items? ((joinUnions first ps ++ ending).flatMap Item.tokens) =
      some (joinUnions first ps ++ ending))
    (hfirst : IsMember first c) (hps : ∀ p ∈ ps, IsUnited p.2 ∧ ∀ i ∈ p.2, i.isEnding = false)
    (hending : IsEnding ending)
    (hread : ∀ depth, (ps.flatMap fun p => p.2.flatMap Item.tokens).length ≤ depth →
      ofUnions? (ofTokens? depth) c ps = some c')
    {depth : ℕ} (hdepth : ((joinUnions first ps ++ ending).flatMap Item.tokens).length < depth) :
    ofTokens? depth ((joinUnions first ps ++ ending).flatMap Item.tokens) =
      some (c'.withEnding (ending.flatMap Item.tokens)) := by
  obtain ⟨depth, rfl⟩ := Nat.exists_eq_succ_of_ne_zero (by omega : depth ≠ 0)
  have hbody : ∀ i ∈ joinUnions first ps, i.isEnding = false := by
    rw [joinUnions, List.forall_mem_append]
    refine ⟨hfirst.noEnding, fun i hi => ?_⟩
    obtain ⟨⟨all, is⟩, hp, hi⟩ := List.mem_flatMap.mp hi
    rcases List.mem_append.mp hi with hi | hi
    · cases all <;> simp [unionItems] at hi <;> rcases hi with rfl | rfl <;> decide
    · exact (hps _ hp).2 i hi
  have hfurther : (ps.flatMap fun p => p.2.flatMap Item.tokens).length ≤
      ((furtherItems ps).flatMap Item.tokens).length := by
    clear hread hbody hdepth hitems hps
    induction ps with
    | nil => simp
    | cons p ps ih =>
      simp only [furtherItems, List.flatMap_cons, List.flatMap_append, List.length_append] at ih ⊢
      omega
  rw [joinUnions, List.flatMap_append, List.flatMap_append, List.length_append,
    List.length_append] at hdepth
  rw [ofTokens?, hitems, Option.bind_some,
    ofItems?_joinUnions hfirst.united.noUnion (fun p hp => (hps p hp).1) hbody hending,
    hfirst.read depth (by omega), Option.bind_some, hread depth (by omega)]
  rfl

/-! ### Chains -/

/-- A union of SELECTs that associates to the left. -/
def IsChain : Compound → Prop
  | select _ => True
  | union _ left (select _) => left.IsChain
  | _ => False

/-- Where every member is a SELECT, the members associate to the left. -/
lemma isChain_ofUnions? (hps : ∀ p ∈ ps, Formula.isQuery p.2 = true) (hc : c.IsChain)
    (h : ofUnions? read c ps = some c') : c'.IsChain := by
  induction ps generalizing c with
  | nil =>
    obtain rfl := Option.some.inj h
    exact hc
  | cons p ps ih =>
    rw [List.forall_mem_cons] at hps
    rw [ofUnions?, ofMember?_of_isQuery hps.1, Option.bind_some] at h
    have hunion : (union p.1 c (select (p.2.flatMap Item.tokens))).IsChain := hc
    exact ih hps.2 hunion h

lemma eq_nil_of_flatMap_tokens (h : is.flatMap Item.tokens = []) : is = [] := by
  cases is with
  | nil => rfl
  | cons i is => cases i <;> simp [Item.tokens] at h

/-- Without parentheses, nothing is read as a union but a chain. -/
lemma isChain_of_ofItems? {all : Bool} {left right : Compound}
    (hfirst : Formula.isQuery first = true) (hps : ∀ p ∈ ps, Formula.isQuery p.2 = true)
    (hunion : ∀ i ∈ first, i.isUnion = false) (hunions : ∀ p ∈ ps, ∀ i ∈ p.2, i.isUnion = false)
    (h : ofItems? read (joinUnions first ps) = some (union all left right)) :
    (union all left right).IsChain := by
  have hunited : ∀ p ∈ ps, IsUnited p.2 := fun p hp => isUnited_of_isQuery (hps p hp) (hunions p hp)
  unfold ofItems? at h
  dsimp only at h
  split_ifs at h
  -- a union is not ordered, so nothing in it starts an ordering
  have hdrop : (joinUnions first ps).dropWhile (!·.isEnding) = [] := by
    split at h
    · simp at h
    · obtain ⟨c, -, hc⟩ := Option.map_eq_some_iff.mp h
      rw [withEnding] at hc
      split_ifs at hc with hempty
      exact eq_nil_of_flatMap_tokens (List.isEmpty_iff.mp hempty)
  have htake : (joinUnions first ps).takeWhile (!·.isEnding) = joinUnions first ps := by
    have happend := List.takeWhile_append_dropWhile (p := (!·.isEnding)) (l := joinUnions first ps)
    rwa [hdrop, List.append_nil] at happend
  rw [htake, hdrop, splitOnP_joinUnions hunion hunited] at h
  dsimp only at h
  rw [ofMember?_of_isQuery hfirst, Option.bind_some, map_ofUnion hunited] at h
  obtain ⟨c, hc, hwhole⟩ := Option.map_eq_some_iff.mp h
  have hplain : c = union all left right := hwhole
  have hselect : (select (first.flatMap Item.tokens)).IsChain := trivial
  rw [← hplain]
  exact isChain_ofUnions? hps hselect hc

end Compound

end SqlCompose
