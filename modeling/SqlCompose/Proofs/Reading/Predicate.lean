import Mathlib
import SqlCompose.Proofs.Reading.Fragment

/-!
# Reading predicates

A predicate is an operand and what is said of it. The operand and the text after it hold no
connective outside parentheses, so that the whole is read as one atomic predicate, whatever stands
for its values. Predicates with AND or OR between them are read as the conjunction or disjunction.
-/

namespace SqlCompose

open Fragment Formula

variable {d : Dialect} {q s t : String} {f g : Fragment} {fs : List Fragment}

/-! ### Plain texts -/

/-- Whether a text is plain, by reading it. -/
def Dialect.checkPlain (d : Dialect) (s : String) : Bool :=
  (d.items? s).any fun is => !is.isEmpty && is.all Item.isPlain

namespace Dialect

lemma isPlain_of_check (h : d.checkPlain s = true) : d.IsPlain s := by
  rw [checkPlain, Option.any_eq_true_iff_get] at h
  obtain ⟨hsome, hplain⟩ := h
  rw [Bool.and_eq_true, Bool.not_eq_true', List.isEmpty_eq_false_iff, List.all_eq_true] at hplain
  exact ⟨_, (Option.some_get hsome).symm, hplain.1, hplain.2⟩

/-- Plain texts that do not run into each other are plain together. -/
lemma IsPlain.append (hs : d.IsPlain s) (ht : d.IsPlain t)
    (h : endsApart s = true ∨ startsApart t = true) : d.IsPlain (s ++ t) := by
  obtain ⟨is, his, hne, hplain⟩ := hs
  obtain ⟨js, hjs, -, hplain'⟩ := ht
  refine ⟨is ++ js, items?_append his hjs h, by simp [hne], ?_⟩
  rw [List.forall_mem_append]
  exact ⟨hplain, hplain'⟩

/-- What stands in parentheses is plain if its own quotes and parentheses are closed. -/
lemma isPlain_parens (h : (d.items? s).isSome = true) : d.IsPlain ("(" ++ s ++ ")") := by
  obtain ⟨is, his⟩ := Option.isSome_iff_exists.mp h
  exact ⟨_, items?_parens his, by simp, by simp [Item.isPlain, Item.isKeyword]⟩

/-- A text that a predicate may start with. -/
def IsOperand (d : Dialect) (q : String) : Prop :=
  ∃ is, d.items? q = some is ∧ SqlCompose.IsOperand is

lemma IsOperand.isPlain (h : d.IsOperand q) : d.IsPlain q := by
  obtain ⟨is, his, hoperand⟩ := h
  exact ⟨is, his, hoperand.ne_nil, hoperand.plain⟩

lemma IsPlain.isSome (h : d.IsPlain s) : (d.items? s).isSome = true := by
  obtain ⟨is, his, -⟩ := h
  rw [his]
  rfl

/-- Whether a text is an operand, by reading it. -/
def checkOperand (d : Dialect) (s : String) : Bool :=
  (d.items? s).any fun is => is.all Item.isPlain &&
    is.head?.any fun i => !i.isKeyword "NOT" && !i.isKeyword "SELECT"

lemma isOperand_of_check (h : d.checkOperand s = true) : d.IsOperand s := by
  rw [checkOperand, Option.any_eq_true_iff_get] at h
  obtain ⟨hsome, hplain⟩ := h
  obtain ⟨is, his⟩ := Option.isSome_iff_exists.mp hsome
  simp only [his, Option.get_some, Bool.and_eq_true, List.all_eq_true] at hplain
  obtain ⟨hall, hhead⟩ := hplain
  cases is with
  | nil => simp at hhead
  | cons i is =>
    refine ⟨_, his, hall, by simp, ?_⟩
    intro k hk
    obtain rfl := Option.some.inj hk
    simpa using hhead

/-- What stands in parentheses is an operand, if its own parentheses are paired. -/
lemma isOperand_parens (h : (d.items? s).isSome = true) : d.IsOperand ("(" ++ s ++ ")") := by
  obtain ⟨is, his⟩ := Option.isSome_iff_exists.mp h
  refine ⟨_, items?_parens his, ?_, by simp, ?_⟩
  · simp [Item.isPlain, Item.isKeyword]
  · simp [Item.isKeyword]

/-- Texts with a comma between neighbours. -/
lemma isSome_join {ss : List String} (h : ∀ s ∈ ss, (d.items? s).isSome = true) :
    (d.items? (Text.join ", " ss)).isSome = true := by
  unfold Text.join
  induction ss with
  | nil =>
    rw [String.intercalate_nil]
    rfl
  | cons s ss ih =>
    rw [List.forall_mem_cons] at h
    cases ss with
    | nil =>
      rw [String.intercalate_singleton]
      exact h.1
    | cons t ss =>
      have hcomma : d.items? ", " = some [.token (.symbol ',')] := by cases d <;> rfl
      obtain ⟨is, his⟩ := Option.isSome_iff_exists.mp h.1
      obtain ⟨js, hjs⟩ := Option.isSome_iff_exists.mp (ih h.2)
      have hfirst := items?_append his hcomma (.inr (by decide))
      rw [String.intercalate_cons_cons,
        items?_append hfirst hjs (.inl (endsApart_append (by decide) (by decide)))]
      rfl

/-- A function of a text. -/
lemma isOperand_call (hq : d.checkOperand q = true) (h : (d.items? s).isSome = true) :
    d.IsOperand (q ++ ("(" ++ s ++ ")")) := by
  obtain ⟨is, his, hoperand⟩ := isOperand_of_check hq
  obtain ⟨js, hjs, -, hplain⟩ := isPlain_parens h
  have hstart : startsApart ("(" ++ s ++ ")") = true := by
    rw [String.append_assoc]
    exact startsApart_append (by decide) (by decide)
  exact ⟨is ++ js, items?_append his hjs (.inr hstart), hoperand.append hplain⟩

lemma IsOperand.append (hq : d.IsOperand q) (hs : d.IsPlain s) (hstart : startsApart s = true) :
    d.IsOperand (q ++ s) := by
  obtain ⟨is, his, hoperand⟩ := hq
  obtain ⟨js, hjs, -, hplain⟩ := hs
  exact ⟨is ++ js, items?_append his hjs (.inr hstart), hoperand.append hplain⟩

end Dialect

/-- An operand with a plain text after it is an atomic predicate. -/
lemma reads_operand (hq : d.IsOperand q) (hs : d.IsPlain s) (hstart : startsApart s = true) :
    ∃ is p, d.items? (q ++ s) = some is ∧ Formula.Reads is [p] := by
  obtain ⟨is, his, hoperand⟩ := hq
  obtain ⟨js, hjs, hne, hplain⟩ := hs
  exact ⟨_, _, Dialect.items?_append his hjs (.inr hstart), reads_atom hoperand hne hplain⟩

/-- An operand between two plain texts is an atomic predicate. -/
lemma reads_range (hq : d.IsOperand q) (hs : d.IsPlain s) (ht : d.IsPlain t) :
    ∃ is p, d.items? (q ++ (" BETWEEN " ++ (s ++ (" AND " ++ t)))) = some is ∧
      Formula.Reads is [p] := by
  obtain ⟨is, his, hoperand⟩ := hq
  obtain ⟨js, hjs, -, hplain⟩ := hs
  obtain ⟨ks, hks, -, hplain'⟩ := ht
  have hbetween : d.items? " BETWEEN " = some [.token (.word "BETWEEN".toList)] := by
    cases d <;> rfl
  have hand : d.items? " AND " = some [.token (.word "AND".toList)] := by cases d <;> rfl
  have hlast := Dialect.items?_append hand hks (.inl (by decide))
  have hbounds := Dialect.items?_append hjs hlast
    (.inr (startsApart_append (by decide) (by decide)))
  have hrange := Dialect.items?_append hbetween hbounds (.inl (by decide))
  exact ⟨_, _, Dialect.items?_append his hrange
      (.inr (startsApart_append (by decide) (by decide))),
    reads_between hoperand rfl rfl hplain hplain'⟩

namespace Fragment

/-! ### Closed fragments -/

/-- The quotes and parentheses in the text of a fragment are closed, whatever stands for values. -/
def IsClosed (d : Dialect) (f : Fragment) : Prop :=
  ∀ b : Binding, b.dialect = d → (d.items? (b.textOf f)).isSome = true

lemma isClosed_slot (hint : String) (v : Value) : IsClosed d [.slot hint v] := by
  rintro b rfl
  rw [Binding.textOf_slot_cons, Binding.textOf_nil, String.append_empty]
  exact (b.isPlain_bind hint v).isSome

/-- Around a separator that touches neither of them, two closed fragments are closed. -/
lemma IsClosed.append_text (hf : IsClosed d f) (herror : f.error? = none)
    (hs : (d.items? s).isSome = true) (hstart : startsApart s = true) (hend : endsApart s = true)
    (hne : s ≠ "") (hg : IsClosed d g) : IsClosed d (f ++ .text s :: g) := by
  rintro b rfl
  obtain ⟨is, his⟩ := Option.isSome_iff_exists.mp (hf b rfl)
  obtain ⟨ks, hks⟩ := Option.isSome_iff_exists.mp hs
  obtain ⟨js, hjs⟩ := Option.isSome_iff_exists.mp (hg (b.after f) (by simp))
  rw [Binding.textOf_append herror, Binding.textOf_text_cons,
    Dialect.items?_append his (Dialect.items?_append hks hjs (.inl hend))
      (.inr (startsApart_append hstart hne))]
  rfl

/-- Fragments with a comma between neighbours. -/
lemma isClosed_join (h : ∀ f ∈ fs, f.error? = none ∧ IsClosed d f) : IsClosed d (join ", " fs) := by
  unfold join
  induction fs with
  | nil =>
    rintro b rfl
    rfl
  | cons f fs ih =>
    rw [List.forall_mem_cons] at h
    cases fs with
    | nil => simpa using h.1.2
    | cons g gs =>
      rw [List.intercalate_cons_cons, List.append_assoc]
      have hcomma : (d.items? ", ").isSome = true := by cases d <;> rfl
      exact h.1.2.append_text h.1.1 hcomma (by decide) (by decide) (by decide) (ih h.2)

lemma isClosed_slots (column : String) (vs : List Value) :
    IsClosed d (join ", " (vs.map fun v => [.slot column v])) := by
  apply isClosed_join
  intro f hf
  obtain ⟨v, -, rfl⟩ := List.mem_map.mp hf
  exact ⟨rfl, isClosed_slot column v⟩

/-- In parentheses a closed fragment is plain. -/
lemma IsClosed.isPlain_bracket (h : IsClosed d f) (herror : f.error? = none) {b : Binding}
    (hb : b.dialect = d) : d.IsPlain (b.textOf (bracket f)) := by
  rw [Binding.textOf_bracket herror]
  exact Dialect.isPlain_parens (h b hb)

lemma IsClosed.bracket (h : IsClosed d f) (herror : f.error? = none) :
    IsClosed d (Fragment.bracket f) := fun _ hb => (h.isPlain_bracket herror hb).isSome

/-! ### Predicates -/

/-- The text of a fragment has no OR outside parentheses and is read as a formula, whatever stands
for values. -/
def IsPredicate (d : Dialect) (f : Fragment) : Prop :=
  ∀ b : Binding, b.dialect = d → ∃ p, b.Reads f [p]

/-- An operand with a constant text and more after it. -/
lemma isPredicate_operand (hq : d.IsOperand q) (hs : d.checkPlain s = true)
    (hstart : startsApart s = true)
    (h : ∀ b : Binding, b.dialect = d → d.IsPlain (s ++ b.textOf f)) :
    IsPredicate d (.text (q ++ s) :: f) := by
  have hne : s ≠ "" := by
    rintro rfl
    exact absurd hs (by cases d <;> decide)
  rintro b rfl
  obtain ⟨is, p, his, hreads⟩ := reads_operand hq (h b rfl) (startsApart_append hstart hne)
  refine ⟨p, is, ?_, hreads⟩
  rw [Binding.textOf_text_cons, String.append_assoc, his]

/-- An operand with a constant text. -/
lemma isPredicate_text (hq : d.IsOperand q) (hs : d.checkPlain s = true)
    (hstart : startsApart s = true) : IsPredicate d [.text (q ++ s)] := by
  apply isPredicate_operand hq hs hstart
  intro b _
  rw [Binding.textOf_nil, String.append_empty]
  exact Dialect.isPlain_of_check hs

lemma isPlain_slot {b : Binding} (hb : b.dialect = d) (hs : d.checkPlain s = true)
    (hend : endsApart s = true) (hint : String) (v : Value) :
    d.IsPlain (s ++ (b.bind hint v).1) := by
  subst hb
  exact (Dialect.isPlain_of_check hs).append (b.isPlain_bind hint v) (.inl hend)

/-- A comparison of an operand with a value. -/
lemma isPredicate_slot (hq : d.IsOperand q) (hs : d.checkPlain s = true)
    (hstart : startsApart s = true) (hend : endsApart s = true) (hint : String) (v : Value) :
    IsPredicate d [.text (q ++ s), .slot hint v] := by
  apply isPredicate_operand hq hs hstart
  intro b hb
  rw [Binding.textOf_slot_cons, Binding.textOf_nil, String.append_empty]
  exact isPlain_slot hb hs hend hint v

/-- A comparison of an operand with a list or a query. -/
lemma isPredicate_bracket (hq : d.IsOperand q) (hs : d.checkPlain s = true)
    (hstart : startsApart s = true) (hend : endsApart s = true) (hf : IsClosed d f)
    (herror : f.error? = none) : IsPredicate d (.text (q ++ s) :: bracket f) := by
  apply isPredicate_operand hq hs hstart
  intro b hb
  exact (Dialect.isPlain_of_check hs).append (hf.isPlain_bracket herror hb) (.inl hend)

/-! ### Several predicates -/

/-- The text of a fragment is read as a formula, whatever stands for values. -/
def IsFormula (d : Dialect) (f : Fragment) : Prop :=
  ∀ b : Binding, b.dialect = d → ∃ ps, b.Reads f ps

lemma IsPredicate.isFormula (h : IsPredicate d f) : IsFormula d f := fun b hb =>
  let ⟨p, hp⟩ := h b hb
  ⟨[p], hp⟩

/-- A formula in parentheses is a predicate, and so is its negation. -/
lemma IsFormula.bracket (h : IsFormula d f) (herror : f.error? = none) :
    IsPredicate d (Fragment.bracket f) := by
  intro b hb
  obtain ⟨ps, hps⟩ := h b hb
  exact ⟨_, hps.bracket herror⟩

/-- A negation has its formula in parentheses, so it is a predicate. -/
lemma IsFormula.not (h : IsFormula d f) (herror : f.error? = none) :
    IsPredicate d (.text "NOT " :: Fragment.bracket f) := by
  intro b hb
  obtain ⟨ps, hps⟩ := h b hb
  exact ⟨_, hps.not herror⟩

/-- The conjunction of two predicates is a predicate. -/
lemma IsPredicate.and (hf : IsPredicate d f) (herror : f.error? = none) (hg : IsPredicate d g) :
    IsPredicate d (f ++ .text " AND " :: g) := by
  intro b hb
  obtain ⟨p, hp⟩ := hf b hb
  obtain ⟨r, hr⟩ := hg (b.after f) (by rw [Binding.after_dialect, hb])
  have hlast : b.Reads f ([] ++ [p]) := hp
  exact ⟨p.and r, hlast.and herror hr⟩

lemma IsFormula.or (hf : IsFormula d f) (herror : f.error? = none) (hg : IsFormula d g) :
    IsFormula d (f ++ .text " OR " :: g) := by
  intro b hb
  obtain ⟨ps, hps⟩ := hf b hb
  obtain ⟨qs, hqs⟩ := hg (b.after f) (by rw [Binding.after_dialect, hb])
  exact ⟨ps ++ qs, hps.or herror hqs⟩

/-- Predicates with AND between neighbours are a predicate. -/
lemma isPredicate_join_and (hne : fs ≠ [])
    (h : ∀ f ∈ fs, f.error? = none ∧ IsPredicate d f) : IsPredicate d (join " AND " fs) := by
  unfold join
  induction fs with
  | nil => exact absurd rfl hne
  | cons f fs ih =>
    rw [List.forall_mem_cons] at h
    cases fs with
    | nil => simpa using h.1.2
    | cons g gs =>
      rw [List.intercalate_cons_cons, List.append_assoc]
      exact h.1.2.and h.1.1 (ih (by simp) h.2)

/-- Predicates with OR between neighbours are a formula. -/
lemma isFormula_join_or (hne : fs ≠ [])
    (h : ∀ f ∈ fs, f.error? = none ∧ IsPredicate d f) : IsFormula d (join " OR " fs) := by
  unfold join
  induction fs with
  | nil => exact absurd rfl hne
  | cons f fs ih =>
    rw [List.forall_mem_cons] at h
    cases fs with
    | nil => simpa using h.1.2.isFormula
    | cons g gs =>
      rw [List.intercalate_cons_cons, List.append_assoc]
      exact h.1.2.isFormula.or h.1.1 (ih (by simp) h.2)

end Fragment

end SqlCompose
