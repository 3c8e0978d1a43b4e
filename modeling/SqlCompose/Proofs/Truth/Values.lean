import Mathlib
import SqlCompose.Proofs.Truth.Membership

/-!
# A column in a list of values

What the membership of a column in a list of values is on a row of a table. A null in the list is
looked for by a null check, every other value by a comparison, and the forms that a list can take,
one value or several, with or without a null, say the same: that the cell is one of the values. The
negated form says the negation of it; the empty list is no exception, as no text asks nothing.
-/

namespace SqlCompose

open Fragment Formula Interpretation

/-! ### Disjunctions -/

namespace Truth

variable {vs : List Truth}

lemma not_or (u v : Truth) : (u.or v).not = u.not.and v.not := by cases u <;> cases v <;> rfl

lemma or_eq_yes_iff {u v : Truth} : u.or v = yes ↔ u = yes ∨ v = yes := by
  cases u <;> cases v <;> decide

/-- A disjunction is true if one of its parts is. -/
lemma any_eq_yes_iff : any vs = yes ↔ yes ∈ vs := by
  induction vs with
  | nil => simp
  | cons v vs ih => rw [any_cons, or_eq_yes_iff, ih, List.mem_cons, eq_comm (a := v)]

lemma any_map_eq_yes_iff {β : Type*} {f : β → Truth} {ys : List β} :
    any (ys.map f) = yes ↔ ∃ y ∈ ys, f y = yes := by
  rw [any_eq_yes_iff, List.mem_map]

/-- Parts that are all the same count once, wherever they stand. -/
lemma any_map_ite {β : Type*} (p : β → Bool) (w : Truth) (f : β → Truth) (ys : List β) :
    any (ys.map fun y => if p y then w else f y) =
      (any ((ys.filter (!p ·)).map f)).or (if ys.any p then w else no) := by
  induction ys with
  | nil => rfl
  | cons y ys ih =>
    rw [List.map_cons, any_cons, ih, List.any_cons]
    cases hy : p y with
    | true =>
      rw [List.filter_cons_of_neg (by simp [hy]), if_pos rfl, Bool.true_or, if_pos rfl]
      generalize any ((ys.filter (!p ·)).map f) = u
      cases ys.any p <;> cases u <;> cases w <;> rfl
    | false =>
      rw [List.filter_cons_of_pos (by simp [hy]), if_neg (by decide), Bool.false_or,
        List.map_cons, any_cons, or_assoc]

end Truth

/-! ### Members of a list -/

section Members

variable {α : Type*} (equal : α → α → Bool) (given : Value → Option α)

/-- A cell is one of some values: a null if there is a null among them, a content if it equals what
one of them stands for. -/
def IsOneOf : Option α → List Value → Prop
  | none, values => .null ∈ values
  | some a, values => ∃ v ∈ values, ∃ c, given v = some c ∧ equal a c = true

/-- The comparison of a cell with a value, where a null is looked for. -/
def nullSafeTruth (x : Option α) (v : Value) : Truth :=
  if v.isNull then .ofBool x.isNone else .ofComparison equal x (given v)

/-- The disjunction of the comparisons with the values of a list, where a null is looked for. -/
def listTruth (x : Option α) (values : List Value) : Truth :=
  .any (values.map (nullSafeTruth equal given x))

variable {equal given}

/-- A comparison holds only between two contents, never with a null. -/
lemma ofComparison_eq_yes_iff {x y : Option α} :
    Truth.ofComparison equal x y = .yes ↔ ∃ a c, x = some a ∧ y = some c ∧ equal a c = true := by
  cases x with
  | none => simp [Truth.ofComparison]
  | some a =>
    cases y with
    | none => simp [Truth.ofComparison]
    | some c => cases h : equal a c <;> simp [Truth.ofComparison, h]

/-- The disjunction is true exactly if the cell is one of the values. -/
lemma listTruth_eq_yes_iff (hnull : given .null = none) {x : Option α} {values : List Value} :
    listTruth equal given x values = .yes ↔ IsOneOf equal given x values := by
  rw [listTruth, Truth.any_map_eq_yes_iff]
  cases x with
  | none =>
    refine ⟨?_, fun h => ⟨.null, h, rfl⟩⟩
    rintro ⟨v, hv, htruth⟩
    cases v with
    | null => exact hv
    | _ => simp [nullSafeTruth, Value.isNull, Truth.ofComparison] at htruth
  | some a =>
    refine exists_congr fun v => and_congr_right fun _ => ?_
    cases v with
    | null => simp [nullSafeTruth, Value.isNull, hnull]
    | _ => simp [nullSafeTruth, Value.isNull, ofComparison_eq_yes_iff]

end Members

/-! ### The forms of a list -/

variable {α : Type*} {S : Interpretation α} {given : Value → Option α} {d : Dialect} {q : String}
  {x : Option α} {f g : Fragment} {u w : Truth}

lemma says_nullCheck (hq : S.ReadsColumn d q x) (negated : Bool) :
    Says S given d [.text (q ++ if negated then " IS NOT NULL" else " IS NULL")]
      ((Truth.ofBool x.isNone).negateIf negated) := by
  cases negated with
  | false => exact says_isNull hq
  | true =>
    refine says_saying false _ hq.readsTuple (by decide) (by decide) fun b hb _ => ?_
    have hnull : d.items? " IS NOT NULL" = some [.token (.word "IS".toList),
        .token (.word "NOT".toList), .token (.word "NULL".toList)] := by cases d <;> rfl
    exact ⟨_, _, .isNull, hnull, by decide, by decide, rfl, rfl⟩

/-- A comparison with one value. -/
lemma says_comparison (hq : S.ReadsColumn d q x) (hint : String) (v : Value) (negated : Bool) :
    Says S given d [.text (q ++ if negated then "<>" else "="), .slot hint v]
      ((Truth.ofComparison S.equal x (given v)).negateIf negated) := by
  cases negated with
  | false => exact says_equals hq hint v
  | true =>
    refine says_saying false (.ofComparison S.equal x (given v)) hq.readsTuple (by decide)
      (by decide) fun b hb hsees => ?_
    obtain ⟨is, his, hne, hscalar, hdenote⟩ := exists_items_slot hb hsees
    have hsign : d.items? "<>" = some [.token (.symbol '<'), .token (.symbol '>')] := by
      cases d <;> rfl
    refine ⟨_, _, .equals is, Dialect.items?_append hsign his (.inl (by decide)), by decide, ?_,
      ?_, ?_⟩
    · refine List.forall_mem_cons.mpr ⟨by decide, List.forall_mem_cons.mpr ⟨by decide, ?_⟩⟩
      exact fun i hi => Item.isPlain_of_isScalarPart (hscalar i hi)
    · have hoperand := operand?_eq_self hne fun i hi =>
        Item.isOperator_of_isScalarPart (hscalar i hi)
      simp [Saying.ofItems?, hoperand]
    · rw [says?, denoteAll, components_of_isScalarPart hscalar, List.map_singleton, hdenote,
        compare?_single]

/-- Values that are looked for in one column. -/
lemma slots_map (hint : String) (values : List Value) :
    slots (values.map fun v => (hint, v)) = join ", " (values.map fun v => [.slot hint v]) := by
  rw [slots, List.map_map]
  rfl

lemma error?_values (s hint : String) (values : List Value) :
    error? (.text s :: bracket (join ", " (values.map fun v => [.slot hint v]))) = none := by
  rw [error?_text_cons, error?_bracket, ← slots_map]
  exact error?_slots _

/-- A list of values in parentheses, as the members that it is read as. -/
lemma exists_items_values {hint : String} {values : List Value} (hne : values ≠ []) {b : Binding}
    (hb : b.dialect = d)
    (hsees : S.Sees d given (b.placed (bracket (join ", " (values.map fun v => [.slot hint v]))))) :
    ∃ ts inside gs, d.items? (b.textOf (bracket (join ", " (values.map fun v => [.slot hint v])))) =
        some [.group ts inside] ∧ Saying.among? [.group ts inside] = some (.among gs) ∧
      List.Forall₂ (fun g v => S.denoteAll g = [given v]) gs values := by
  rw [← slots_map] at hsees ⊢
  have herror := error?_slots (values.map fun v => (hint, v))
  rw [Binding.placed_bracket herror] at hsees
  obtain ⟨gs, hgs, hall⟩ := exists_items_slots hb hsees
  rw [List.forall₂_map_right_iff] at hall
  obtain ⟨hscalars, hdenotes⟩ := (List.forall₂_and_left gs values).mp hall
  have hnil : gs ≠ [] := by
    rintro rfl
    exact hne (List.forall₂_nil_left_iff.mp hall)
  have hcomma : ∀ g ∈ gs, Item.comma ∉ g :=
    fun g hg => comma_not_mem_of_isScalarPart (hscalars g hg)
  refine ⟨_, _, gs, items?_textOf_bracket herror hgs,
    among?_group hnil hcomma (items?_flatMap_tokens hgs), hall.imp ?_⟩
  rintro g v ⟨hscalar, hdenote⟩
  rw [denoteAll, components_of_isScalarPart hscalar, List.map_singleton, hdenote]

/-- A membership in a list of values, each of which is compared. -/
lemma says_values (hq : S.ReadsColumn d q x) (hint : String) {values : List Value}
    (hne : values ≠ []) (negated : Bool) :
    Says S given d (.text (q ++ if negated then " NOT IN " else " IN ") ::
        bracket (join ", " (values.map fun v => [.slot hint v])))
      (.negateIf negated (.any (values.map fun v => .ofComparison S.equal x (given v)))) := by
  apply says_among hq.readsTuple
  intro b hb hsees
  obtain ⟨ts, inside, gs, hitems, hamong, hgs⟩ := exists_items_values hne hb hsees
  refine ⟨ts, inside, gs, hitems, hamong, ?_⟩
  have hdenotes : List.Forall₂ (fun g ys => S.denoteAll g = ys) gs
      (values.map fun v => [given v]) := List.forall₂_map_right_iff.mpr hgs
  have hwidth : ∀ ys ∈ values.map (fun v => [given v]), ys.length = [x].length := by simp
  rw [says?_among hdenotes hwidth, List.map_map]
  congr 2
  exact List.map_congr_left fun v _ => by simp

/-- A membership beside a null check; the negation denies both. -/
lemma Fragment.Says.withNull {negated : Bool} (hf : Says S given d f (u.negateIf negated))
    (hg : Says S given d g (w.negateIf negated)) (hferror : error? f = none)
    (hgerror : error? g = none) :
    Says S given d (Fragment.bracket (join (if negated then " AND " else " OR ") [f, g]))
      ((u.or w).negateIf negated) := by
  have herror (sep : String) : error? (join sep [f, g]) = none := by
    rw [error?_join, List.forall_mem_cons, List.forall_mem_singleton]
    exact ⟨hferror, hgerror⟩
  have hboth := List.Forall₂.cons (R := fun f v => error? f = none ∧ Says S given d f v)
    ⟨hferror, hf⟩ (.cons ⟨hgerror, hg⟩ .nil)
  cases negated with
  | false =>
    have hany := (saysAny_join_or (by simp) hboth).bracket (herror _)
    rwa [Truth.any_cons, Truth.any_cons, Truth.any_nil, Truth.or_no] at hany
  | true =>
    have hall := (says_join_and (by simp) hboth).bracket (herror _)
    rw [Truth.all_cons, Truth.all_cons, Truth.all_nil, Truth.and_yes] at hall
    rw [Truth.negateIf, if_pos rfl, Truth.not_or]
    exact hall

/-- The other values of a list beside its nulls, if it has any. -/
lemma Fragment.Says.besideNulls {negated : Bool} (hf : Says S given d f (u.negateIf negated))
    (herror : error? f = none) (hq : S.ReadsColumn d q x) (hasNull : Bool) :
    Says S given d (if hasNull then
        Fragment.bracket (join (if negated then " AND " else " OR ") [f,
          [.text (q ++ if negated then " IS NOT NULL" else " IS NULL")]])
      else f)
      ((u.or (if hasNull then .ofBool x.isNone else .no)).negateIf negated) := by
  cases hasNull with
  | false =>
    rw [if_neg (by decide), if_neg (by decide), Truth.or_no]
    exact hf
  | true => exact hf.withNull (says_nullCheck hq negated) herror rfl

/-- What a membership in a list is, unless its text is empty. -/
lemma says_inList {column : String} (hq : S.ReadsColumn d (d.quoteColumn column) x)
    {values : List Value} {negated : Bool} (hne : values ≠ [] ∨ negated = false) :
    Says S given d (inList d column values negated)
      ((listTruth S.equal given x values).negateIf negated) := by
  have htruth : listTruth S.equal given x values =
      (Truth.any ((values.filter (!·.isNull)).map fun v =>
        .ofComparison S.equal x (given v))).or
          (if values.any Value.isNull then .ofBool x.isNone else .no) :=
    Truth.any_map_ite Value.isNull _ _ values
  rw [htruth]
  unfold inList
  dsimp only
  split
  · rename_i hfilter
    rw [hfilter, List.map_nil, Truth.any_nil, Truth.no_or]
    cases values with
    | nil =>
      obtain rfl : negated = false := by simpa using hne
      exact says_falsity
    | cons v values =>
      have hnull : (v :: values).any Value.isNull = true := by
        rw [List.filter_eq_nil_iff] at hfilter
        have hv := hfilter v List.mem_cons_self
        simp only [Bool.not_eq_true', Bool.not_eq_false] at hv
        rw [List.any_cons, hv, Bool.true_or]
      rw [hnull, if_pos rfl]
      exact says_nullCheck hq negated
  · rename_i v hfilter
    rw [hfilter, List.map_singleton, Truth.any_cons, Truth.any_nil, Truth.or_no]
    exact (says_comparison hq column v negated).besideNulls rfl hq _
  · rename_i hfilter₀ hfilter₁
    have hvs : values.filter (!·.isNull) ≠ [] := fun h => hfilter₀ h
    exact (says_values hq column hvs negated).besideNulls (error?_values ..) hq _

end SqlCompose
