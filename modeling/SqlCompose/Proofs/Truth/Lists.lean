import Mathlib
import SqlCompose.Proofs.Truth.Forms
import SqlCompose.Proofs.Truth.Values

/-!
# Memberships in a list of values

A column is looked for in a list of values by a condition or by a lookup. The condition is true for
a cell exactly if the cell is one of the values, a null being one of them if there is a null among
them, and its negation says the contrary. The lookup compares with every value, nulls included, so
it never finds a null; the two select the same rows unless the list has a null.
-/

namespace SqlCompose

open Fragment

variable {α : Type*}

/-! ### The condition and its negation -/

/-- A membership binds the same values as its negation. -/
lemma effects_inList (d : Dialect) (column : String) (values : List Value) (negated : Bool) :
    effects (inList d column values negated) = effects (inList d column values false) := by
  unfold inList ofEmptyList
  dsimp only
  cases negated with
  | false => rfl
  | true =>
    split
    · cases values.isEmpty <;> rfl
    · cases values.any Value.isNull <;> simp
    · cases values.any Value.isNull <;> simp

namespace Binding

variable {b : Binding} {S : Interpretation α} {given : Value → Option α} {column : String}
  {x : Option α} {values : List Value}

/-- The text of a membership in a list, and of its negation. -/
lemma value?_inList (hname : S.ReadsColumn b.dialect (b.dialect.quoteColumn column) x)
    (hvalues : S.Sees b.dialect given (b.placed (inList b.dialect column values false)))
    (negated : Bool) :
    S.value? b.dialect (b.textOf (inList b.dialect column values negated)) =
      some ((listTruth S.equal given x values).negateIf negated) := by
  have hsees : S.Sees b.dialect given (b.placed (inList b.dialect column values negated)) := by
    rwa [← placed_effects, effects_inList, placed_effects]
  by_cases hne : values ≠ [] ∨ negated = false
  · exact (says_inList hname hne).value?_textOf rfl hsees
  · rw [not_or, not_not, Bool.not_eq_false] at hne
    obtain ⟨rfl, rfl⟩ := hne
    rfl

/-- A membership in a list is written from any binding. For a row of a table it is true exactly if
the cell of the column is one of the values, and its negation has the negated truth value; where the
negation has no text, this is true. -/
theorem inList_true_iff_isOneOf (hnull : given .null = none)
    (hname : S.ReadsColumn b.dialect (b.dialect.quoteColumn column) x)
    (hvalues : S.Sees b.dialect given (b.placed (inList b.dialect column values false))) :
    ∃ text negation v, (b.write (inList b.dialect column values false)).1 = .ok text ∧
      (b.write (inList b.dialect column values true)).1 = .ok negation ∧
      S.value? b.dialect text = some v ∧ S.value? b.dialect negation = some v.not ∧
      (v = .yes ↔ IsOneOf S.equal given x values) :=
  ⟨_, _, _, write_fst_eq_textOf (error?_inList ..), write_fst_eq_textOf (error?_inList ..),
    value?_inList hname hvalues false, value?_inList hname hvalues true, listTruth_eq_yes_iff hnull⟩

/-- A null in column `a`, and two placeholders for the value one. -/
def nullAndOnes : Interpretation ℤ := Builder.contentsOf
  [([.word [':', 'a', '1']], 1), ([.word [':', 'a', '2']], 1)]

/-- A null is a member of a list with a null between two equal values. -/
theorem inList_true_iff_isOneOf_nullCell :
    ∃ text negation, ((start .mysql false).write
        (inList .mysql "a" [.int 1, .null, .int 1] false)).1 = .ok text ∧
      ((start .mysql false).write (inList .mysql "a" [.int 1, .null, .int 1] true)).1 =
        .ok negation ∧
      text = "(\x60a\x60 IN (:a1, :a2) OR \x60a\x60 IS NULL)" ∧
      negation = "(\x60a\x60 NOT IN (:a1, :a2) AND \x60a\x60 IS NOT NULL)" ∧
      nullAndOnes.value? .mysql text = some .yes ∧
      nullAndOnes.value? .mysql negation = some .no := by
  have hname : nullAndOnes.ReadsColumn .mysql (Dialect.mysql.quoteColumn "a") none :=
    readsColumn_of_quoted rfl
  have hvalues : nullAndOnes.Sees .mysql Builder.intContent?
      ((start .mysql false).placed (inList .mysql "a" [.int 1, .null, .int 1] false)) :=
    Builder.sees_of_check (by rfl)
  obtain ⟨text, negation, v, htext, hnegation, hvalue, hvalue', hmember⟩ :=
    inList_true_iff_isOneOf (b := start .mysql false) rfl hname hvalues
  have hnull : IsOneOf nullAndOnes.equal Builder.intContent? none [.int 1, .null, .int 1] :=
    List.mem_cons_of_mem _ List.mem_cons_self
  obtain rfl := hmember.mpr hnull
  refine ⟨text, negation, htext, hnegation, ?_, ?_, hvalue, hvalue'⟩
  · exact (Except.ok.inj htext).symm
  · exact (Except.ok.inj hnegation).symm

end Binding

/-! ### The lookup -/

/-- A cell equals one of some values in a comparison if it is one of them and not a null. -/
lemma any_ofComparison_eq_yes_iff {equal : α → α → Bool} {given : Value → Option α}
    {x : Option α} {values : List Value} :
    Truth.any (values.map fun v => .ofComparison equal x (given v)) = .yes ↔
      x ≠ none ∧ IsOneOf equal given x values := by
  rw [Truth.any_map_eq_yes_iff]
  cases x with
  | none => simp [Truth.ofComparison]
  | some a => simp [ofComparison_eq_yes_iff, IsOneOf]

/-- A lookup compares with every value of its list. -/
lemma says_amongValues {S : Interpretation α} {given : Value → Option α} {d : Dialect}
    {field : String} {x : Option α} (hq : S.ReadsColumn d field x) (values : List Value) :
    Says S given d (amongValues field values)
      (.any (values.map fun v => .ofComparison S.equal x (given v))) := by
  unfold amongValues
  split
  · rename_i hempty
    rw [List.isEmpty_iff.mp hempty]
    exact says_falsity
  · rename_i hempty
    exact says_values hq field (by simpa using hempty) false

lemma error?_amongValues (field : String) (values : List Value) :
    error? (amongValues field values) = none := by
  unfold amongValues
  split
  · rfl
  · exact error?_values ..

lemma Fragment.joinNonBlank_singleton (sep : String) (f : Fragment) :
    joinNonBlank sep [f] = f := by
  rw [joinNonBlank, joinFrom, joinFrom, joinFrom]
  split <;> simp

namespace Builder

variable {b : Builder} {column : String} {values : List Value}

/-- A hash of one column with a list is the membership of the column in the list. -/
lemma condition_hash_list (b : Builder) (column : String) (values : List Value) :
    b.condition (.hash [(column, .list values)]) = b.condition (.inList column values) := by
  have hfragment : (Condition.hash [(column, .list values)]).fragment b.dialect =
      (Condition.inList column values).fragment b.dialect := by
    rw [Condition.fragment, hashFragments, hashFragments, joinNonBlank_singleton]
    rfl
  rw [condition, condition, hfragment]
  rfl

/-- A lookup in a list, the condition and the hash with the same list are written. For a row of a
table the lookup is true only if the condition is, and both are true for the same cells unless the
cell is a null and there is a null in the list: this the condition finds and the lookup does not. -/
theorem lookup_agrees_iff {S₁ S₂ : Interpretation α} {given : Value → Option α} {x : Option α}
    (hequal : S₁.equal = S₂.equal) (hnull : given .null = none)
    (hname₁ : S₁.ReadsColumn b.dialect (b.dialect.quoteColumn column) x)
    (hname₂ : S₂.ReadsColumn b.dialect (b.dialect.quoteColumn column) x)
    (hvalues₁ : S₁.Sees b.dialect given
      (b.placed (.condition (.lookup column .within (.list values)))))
    (hvalues₂ : S₂.Sees b.dialect given (b.placed (.condition (.inList column values)))) :
    ∃ out₁ out₂ v₁ v₂, b.condition (.lookup column .within (.list values)) = .ok out₁ ∧
      b.condition (.inList column values) = .ok out₂ ∧
      b.condition (.hash [(column, .list values)]) = .ok out₂ ∧
      S₁.value? b.dialect out₁.sql = some v₁ ∧ S₂.value? b.dialect out₂.sql = some v₂ ∧
      (v₁ = .yes → v₂ = .yes) ∧ ((v₁ = .yes ↔ v₂ = .yes) ↔ ¬(x = none ∧ .null ∈ values)) := by
  have hlookup : (Condition.lookup column .within (.list values)).fragment b.dialect =
      amongValues (b.dialect.quoteColumn column) values := Condition.fragment_lookup (by simp)
  have hsays : Says S₁ given b.dialect (amongValues (b.dialect.quoteColumn column) values)
      (.any (values.map fun v => .ofComparison S₁.equal x (given v))) :=
    says_amongValues hname₁ values
  obtain ⟨out₁, hout₁, hvalue₁⟩ := exists_condition (by rw [hlookup]; exact error?_amongValues ..)
    (by rw [hlookup]; exact hsays.value?_textOf startFor_dialect (by rwa [← hlookup]))
  obtain ⟨out₂, hout₂, hvalue₂⟩ := exists_condition (c := .inList column values)
    (error?_inList b.dialect column values false)
    (Binding.value?_inList (b := b.startFor (.condition (.inList column values))) hname₂ hvalues₂
      false)
  rw [hequal] at hvalue₁
  refine ⟨out₁, out₂, _, _, hout₁, hout₂, ?_, hvalue₁, hvalue₂, ?_, ?_⟩
  · rw [condition_hash_list, hout₂]
  · intro hyes
    exact (listTruth_eq_yes_iff hnull).mpr (any_ofComparison_eq_yes_iff.mp hyes).2
  · rw [any_ofComparison_eq_yes_iff, Truth.negateIf, if_neg (by decide),
      listTruth_eq_yes_iff hnull]
    cases x with
    | none => simp [IsOneOf]
    | some a => simp

/-- A null in column `a`, and a null for every placeholder. -/
def onlyNulls : Interpretation ℤ := contentsOf []

/-- A null is not found by a lookup in the list of a null, and is by the condition. -/
theorem lookup_agrees_iff_loneNull :
    ∃ out₁ out₂ v₁, (Builder.mk .mysql none false).condition
        (.lookup "a" .within (.list [.null])) = .ok out₁ ∧
      (Builder.mk .mysql none false).condition (.inList "a" [.null]) = .ok out₂ ∧
      out₁.sql = "\x60a\x60 IN (:a1)" ∧ out₂.sql = "\x60a\x60 IS NULL" ∧
      onlyNulls.value? .mysql out₁.sql = some v₁ ∧ onlyNulls.value? .mysql out₂.sql = some .yes ∧
      v₁ ≠ .yes := by
  let b : Builder := ⟨.mysql, none, false⟩
  have hname : onlyNulls.ReadsColumn .mysql (Dialect.mysql.quoteColumn "a") none :=
    readsColumn_of_quoted rfl
  have hvalues₁ : onlyNulls.Sees .mysql intContent?
      (b.placed (.condition (.lookup "a" .within (.list [.null])))) :=
    sees_of_check (by decide +kernel)
  have hvalues₂ : onlyNulls.Sees .mysql intContent?
      (b.placed (.condition (.inList "a" [.null]))) := sees_of_check (by rfl)
  obtain ⟨out₁, out₂, v₁, v₂, hout₁, hout₂, -, hvalue₁, hvalue₂, -, hagree⟩ :=
    lookup_agrees_iff (b := b) rfl rfl hname hname hvalues₁ hvalues₂
  have hlookup : b.condition (.lookup "a" .within (.list [.null])) =
      .ok ⟨"\x60a\x60 IN (:a1)", some (.ofList [(":a1", .null)])⟩ := by decide +kernel
  have hcondition : b.condition (.inList "a" [.null]) = .ok ⟨"\x60a\x60 IS NULL", none⟩ := by rfl
  obtain rfl := Except.ok.inj (hlookup.symm.trans hout₁)
  obtain rfl := Except.ok.inj (hcondition.symm.trans hout₂)
  obtain rfl : Truth.yes = v₂ := Option.some.inj hvalue₂
  refine ⟨_, _, v₁, hlookup, hcondition, rfl, rfl, hvalue₁, hvalue₂, fun hyes => ?_⟩
  exact hagree.mp (iff_of_true hyes rfl) ⟨rfl, List.mem_cons_self⟩

end Builder

end SqlCompose
