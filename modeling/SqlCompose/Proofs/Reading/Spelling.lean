import Mathlib
import SqlCompose.Proofs.Reading.Precedence

/-!
# Spellings

A spelling is a formula with the parentheses that it is written with. Its text reads as it means if
no side of an AND has an OR outside parentheses. Otherwise the text means something else: as soon as
no atomic predicate stands in it twice, there is an assignment under which it has the other truth
value.
-/

namespace SqlCompose

open Formula

/-- A formula and the parentheses that it is written with. -/
inductive Spelling
  /-- A text that is read as a disjunction of these parts. -/
  | phrase (parts : List Formula)
  /-- A negation; what is negated stands in parentheses. -/
  | not (s : Spelling)
  | parens (s : Spelling)
  | and (s t : Spelling)
  | or (s t : Spelling)

namespace Formula

/-- The parts of two texts with AND between them: the two that it stands between become one. -/
def meet (ps qs : List Formula) : List Formula :=
  match ps.getLast?, qs with
  | some p, q :: qs => ps.dropLast ++ p.and q :: qs
  | _, qs => ps ++ qs

lemma meet_append (ps qs : List Formula) (p q : Formula) :
    meet (ps ++ [p]) (q :: qs) = ps ++ p.and q :: qs := by
  simp [meet]

/-! ### Assignments -/

variable {σ τ : List Token → Bool}

/-- Only the atomic predicates of a formula count for its truth value. -/
lemma eval_congr {f : Formula} (h : ∀ t ∈ f.atoms, σ t = τ t) : f.eval σ = f.eval τ := by
  induction f with
  | atom t => exact h t List.mem_cons_self
  | not f ih => rw [eval, eval, ih h]
  | and f g ihf ihg | or f g ihf ihg =>
    rw [atoms, List.forall_mem_append] at h
    rw [eval, eval, ihf h.1, ihg h.2]

/-- Only the atomic predicates of a formula decide its truth value. -/
lemma any_eval_congr {ps : List Formula} (h : ∀ t ∈ ps.flatMap atoms, σ t = τ t) :
    ps.any (eval σ) = ps.any (eval τ) := by
  induction ps with
  | nil => rfl
  | cons p ps ih =>
    rw [List.flatMap_cons, List.forall_mem_append] at h
    rw [List.any_cons, List.any_cons, eval_congr h.1, ih h.2]

/-- Two assignments to different atomic predicates are both part of one. -/
lemma exists_joint {α : Type*} {ts us : List (List Token)} (h : ts.Disjoint us)
    (σ τ : List Token → α) :
    ∃ ρ : List Token → α, (∀ t ∈ ts, ρ t = σ t) ∧ ∀ u ∈ us, ρ u = τ u := by
  refine ⟨fun t => if t ∈ ts then σ t else τ t, fun t ht => if_pos ht, fun u hu => if_neg ?_⟩
  intro hu'
  exact h hu' hu

/-- A formula in which no atomic predicate stands twice can have either truth value. -/
lemma exists_eval {f : Formula} (h : f.atoms.Nodup) (v : Bool) : ∃ σ, f.eval σ = v := by
  induction f generalizing v with
  | atom t => exact ⟨fun _ => v, rfl⟩
  | not f ih =>
    obtain ⟨σ, hσ⟩ := ih h (!v)
    exact ⟨σ, by rw [eval, hσ, Bool.not_not]⟩
  | and f g ihf ihg =>
    obtain ⟨hf, hg, hdisjoint⟩ := List.nodup_append'.mp h
    obtain ⟨σ, hσ⟩ := ihf hf v
    obtain ⟨τ, hτ⟩ := ihg hg v
    obtain ⟨ρ, hρσ, hρτ⟩ := exists_joint hdisjoint σ τ
    exact ⟨ρ, by rw [eval, eval_congr hρσ, eval_congr hρτ, hσ, hτ, Bool.and_self]⟩
  | or f g ihf ihg =>
    obtain ⟨hf, hg, hdisjoint⟩ := List.nodup_append'.mp h
    obtain ⟨σ, hσ⟩ := ihf hf v
    obtain ⟨τ, hτ⟩ := ihg hg v
    obtain ⟨ρ, hρσ, hρτ⟩ := exists_joint hdisjoint σ τ
    exact ⟨ρ, by rw [eval, eval_congr hρσ, eval_congr hρτ, hσ, hτ, Bool.or_self]⟩

/-- If no atomic predicate stands twice, both truth values are reached. -/
lemma exists_any_eval {ps : List Formula} (hne : ps ≠ []) (h : (ps.flatMap atoms).Nodup)
    (v : Bool) : ∃ σ, ps.any (eval σ) = v := by
  rw [← atoms_anyOf hne] at h
  obtain ⟨σ, hσ⟩ := exists_eval h v
  exact ⟨σ, by rw [← eval_anyOf hne, hσ]⟩

end Formula

namespace Spelling

/-- The parts of the disjunction that the text is read as. -/
def parts : Spelling → List Formula
  | phrase ps => ps
  | not s => [(anyOf s.parts).not]
  | parens s => [anyOf s.parts]
  | and s t => meet s.parts t.parts
  | or s t => s.parts ++ t.parts

/-- The truth value that is meant. -/
def means (σ : List Token → Bool) : Spelling → Bool
  | phrase ps => ps.any (eval σ)
  | not s => !s.means σ
  | parens s => s.means σ
  | and s t => s.means σ && t.means σ
  | or s t => s.means σ || t.means σ

/-- What is meant for a row that gives the atomic predicates these truth values. -/
def value (τ : List Token → Truth) : Spelling → Truth
  | phrase ps => .any (ps.map (Formula.value τ))
  | not s => (s.value τ).not
  | parens s => s.value τ
  | and s t => (s.value τ).and (t.value τ)
  | or s t => (s.value τ).or (t.value τ)

def atoms : Spelling → List (List Token)
  | phrase ps => ps.flatMap Formula.atoms
  | not s | parens s => s.atoms
  | and s t | or s t => s.atoms ++ t.atoms

/-- Whether the text has an OR outside parentheses. -/
def isOpen (s : Spelling) : Bool := decide (1 < s.parts.length)

/-- No text in it is empty. -/
def IsFull : Spelling → Prop
  | phrase ps => ps ≠ []
  | not s | parens s => s.IsFull
  | and s t | or s t => s.IsFull ∧ t.IsFull

/-- Neither side of an AND has an OR outside parentheses. -/
def Grouped : Spelling → Prop
  | phrase _ => True
  | not s | parens s => s.Grouped
  | and s t => (s.isOpen = false ∧ t.isOpen = false) ∧ s.Grouped ∧ t.Grouped
  | or s t => s.Grouped ∧ t.Grouped

variable {s t : Spelling} {σ τ : List Token → Bool}

/-- A spelling without empty texts has a part. -/
lemma parts_ne_nil (h : s.IsFull) : s.parts ≠ [] := by
  induction s with
  | phrase ps => exact h
  | not s | parens s => simp [parts]
  | and s t ihs iht =>
    obtain ⟨ps, p, hs⟩ := (List.eq_nil_or_concat' s.parts).resolve_left (ihs h.1)
    obtain ⟨q, qs, ht⟩ := List.exists_cons_of_ne_nil (iht h.2)
    rw [parts, hs, ht, meet_append]
    simp
  | or s t ihs _ => simp [parts, ihs h.1]

/-- The last part of one text and the first part of another. -/
lemma exists_parts (hs : s.IsFull) (ht : t.IsFull) :
    ∃ ps p q qs, s.parts = ps ++ [p] ∧ t.parts = q :: qs := by
  obtain ⟨ps, p, hps⟩ := (List.eq_nil_or_concat' s.parts).resolve_left (parts_ne_nil hs)
  obtain ⟨q, qs, hqs⟩ := List.exists_cons_of_ne_nil (parts_ne_nil ht)
  exact ⟨ps, p, q, qs, hps, hqs⟩

/-- The parts have all the atomic predicates, in their order. -/
lemma flatMap_atoms_parts (h : s.IsFull) : s.parts.flatMap Formula.atoms = s.atoms := by
  induction s with
  | phrase ps => rfl
  | not s ih => simp [parts, atoms, Formula.atoms, atoms_anyOf (parts_ne_nil (s := s) h), ih h]
  | parens s ih => simp [parts, atoms, atoms_anyOf (parts_ne_nil (s := s) h), ih h]
  | and s t ihs iht =>
    obtain ⟨ps, p, q, qs, hs, ht⟩ := exists_parts h.1 h.2
    rw [parts, atoms, ← ihs h.1, ← iht h.2, hs, ht, meet_append]
    simp [Formula.atoms]
  | or s t ihs iht => rw [parts, atoms, List.flatMap_append, ihs h.1, iht h.2]

/-- A text without an OR outside parentheses is one part. -/
lemma exists_parts_eq_singleton (h : s.IsFull) (hopen : s.isOpen = false) :
    ∃ p, s.parts = [p] := by
  rw [← List.length_eq_one_iff]
  have hpos := List.length_pos_of_ne_nil (parts_ne_nil h)
  rw [isOpen, decide_eq_false_iff_not] at hopen
  omega

lemma any_parts_not (h : s.not.IsFull) (σ : List Token → Bool) :
    s.not.parts.any (eval σ) = !s.parts.any (eval σ) := by
  have hs : s.IsFull := h
  rw [parts, List.any_cons, List.any_nil, Bool.or_false, eval, eval_anyOf (parts_ne_nil hs)]

lemma any_parts_parens (h : s.parens.IsFull) (σ : List Token → Bool) :
    s.parens.parts.any (eval σ) = s.parts.any (eval σ) := by
  have hs : s.IsFull := h
  rw [parts, List.any_cons, List.any_nil, Bool.or_false, eval_anyOf (parts_ne_nil hs)]

/-- If no side of an AND has an OR outside parentheses, the text is read as it is meant. -/
theorem read_eq_means (h : s.IsFull) (hgrouped : s.Grouped) (σ : List Token → Bool) :
    s.parts.any (eval σ) = s.means σ := by
  induction s with
  | phrase ps => rfl
  | not s ih => rw [any_parts_not h, means, ih h hgrouped]
  | parens s ih => rw [any_parts_parens h, means, ih h hgrouped]
  | and s t ihs iht =>
    obtain ⟨⟨hs, ht⟩, hsg, htg⟩ := hgrouped
    obtain ⟨p, hp⟩ := exists_parts_eq_singleton h.1 hs
    obtain ⟨q, hq⟩ := exists_parts_eq_singleton h.2 ht
    have hmeet : meet [p] [q] = [p.and q] := meet_append [] [] p q
    rw [parts, means, ← ihs h.1 hsg, ← iht h.2 htg, hp, hq, hmeet]
    simp [eval]
  | or s t ihs iht =>
    rw [parts, means, List.any_append, ihs h.1 hgrouped.1, iht h.2 hgrouped.2]

lemma value_anyOf {ps : List Formula} (h : ps ≠ []) (τ : List Token → Truth) :
    (anyOf ps).value τ = .any (ps.map (Formula.value τ)) := by
  obtain ⟨p, ps, rfl⟩ := List.exists_cons_of_ne_nil h
  rw [anyOf, value_foldl_or]
  rfl

/-- If no side of an AND has an OR outside parentheses, the text is read as it is meant, for every
row. -/
theorem read_value (h : s.IsFull) (hgrouped : s.Grouped) (τ : List Token → Truth) :
    .any (s.parts.map (Formula.value τ)) = s.value τ := by
  induction s with
  | phrase ps => rfl
  | not s ih =>
    have hs : s.IsFull := h
    rw [parts, value, ← ih hs hgrouped, ← value_anyOf (parts_ne_nil hs)]
    exact Truth.or_no _
  | parens s ih =>
    have hs : s.IsFull := h
    rw [parts, value, ← ih hs hgrouped, ← value_anyOf (parts_ne_nil hs)]
    exact Truth.or_no _
  | and s t ihs iht =>
    obtain ⟨⟨hs, ht⟩, hsg, htg⟩ := hgrouped
    obtain ⟨p, hp⟩ := exists_parts_eq_singleton h.1 hs
    obtain ⟨q, hq⟩ := exists_parts_eq_singleton h.2 ht
    have hmeet : meet [p] [q] = [p.and q] := meet_append [] [] p q
    rw [parts, value, ← ihs h.1 hsg, ← iht h.2 htg, hp, hq, hmeet]
    simp [Formula.value]
  | or s t ihs iht =>
    rw [parts, value, List.map_append, Truth.any_append, ihs h.1 hgrouped.1, iht h.2 hgrouped.2]

/-! ### Texts that are misread -/

lemma means_congr (h : ∀ t ∈ s.atoms, σ t = τ t) : s.means σ = s.means τ := by
  induction s with
  | phrase ps => exact any_eval_congr h
  | not s ih => rw [means, means, ih h]
  | parens s ih => exact ih h
  | and s t ihs iht | or s t ihs iht =>
    rw [atoms, List.forall_mem_append] at h
    rw [means, means, ihs h.1, iht h.2]

lemma read_congr (hfull : s.IsFull) (h : ∀ t ∈ s.atoms, σ t = τ t) :
    s.parts.any (eval σ) = s.parts.any (eval τ) := by
  rw [← flatMap_atoms_parts hfull] at h
  exact any_eval_congr h

/-- Where both sides have a common value, the AND between them does not count. -/
lemma or_and_or {a p q b v : Bool} (h : (a || p) = v) (h' : (q || b) = v) :
    (a || (p && q || b)) = v := by
  cases v
  · rw [Bool.or_eq_false_iff] at h h'
    rw [h.1, h.2, h'.2]
    rfl
  · cases a
    · obtain rfl : p = true := h
      simpa using h'
    · rfl

/-- Two texts of different atomic predicates are read and meant independently. -/
lemma exists_splice (hs : s.IsFull) (ht : t.IsFull) (hdisjoint : s.atoms.Disjoint t.atoms)
    (σ τ : List Token → Bool) :
    ∃ ρ, (s.parts.any (eval ρ) = s.parts.any (eval σ) ∧ s.means ρ = s.means σ) ∧
      t.parts.any (eval ρ) = t.parts.any (eval τ) ∧ t.means ρ = t.means τ := by
  obtain ⟨ρ, hρσ, hρτ⟩ := exists_joint hdisjoint σ τ
  exact ⟨ρ, ⟨read_congr hs hρσ, means_congr hρσ⟩, read_congr ht hρτ, means_congr hρτ⟩

/-- A text can be read and meant with either truth value at once. -/
lemma exists_both (h : s.IsFull) (hnodup : s.atoms.Nodup) (v : Bool) :
    ∃ σ, s.parts.any (eval σ) = v ∧ s.means σ = v := by
  induction s generalizing v with
  | phrase ps =>
    obtain ⟨σ, hσ⟩ := exists_any_eval h hnodup v
    exact ⟨σ, hσ, hσ⟩
  | not s ih =>
    obtain ⟨σ, hread, hmeans⟩ := ih h hnodup (!v)
    refine ⟨σ, ?_, by rw [means, hmeans, Bool.not_not]⟩
    rw [any_parts_not h, hread, Bool.not_not]
  | parens s ih =>
    obtain ⟨σ, hread, hmeans⟩ := ih h hnodup v
    exact ⟨σ, by rw [any_parts_parens h, hread], hmeans⟩
  | and s t ihs iht =>
    obtain ⟨hs, ht, hdisjoint⟩ := List.nodup_append'.mp hnodup
    obtain ⟨σ, hreads, hmeanss⟩ := ihs h.1 hs v
    obtain ⟨τ, hreadt, hmeanst⟩ := iht h.2 ht v
    obtain ⟨ρ, ⟨hrs, hms⟩, hrt, hmt⟩ := exists_splice h.1 h.2 hdisjoint σ τ
    refine ⟨ρ, ?_, by rw [means, hms, hmt, hmeanss, hmeanst, Bool.and_self]⟩
    rw [hreads] at hrs
    rw [hreadt] at hrt
    obtain ⟨ps, p, q, qs, hps, hqs⟩ := exists_parts h.1 h.2
    rw [hps] at hrs
    rw [hqs] at hrt
    rw [parts, hps, hqs, meet_append]
    simp only [List.any_append, List.any_cons, List.any_nil, Bool.or_false, eval] at hrs hrt ⊢
    exact or_and_or hrs hrt
  | or s t ihs iht =>
    obtain ⟨hs, ht, hdisjoint⟩ := List.nodup_append'.mp hnodup
    obtain ⟨σ, hreads, hmeanss⟩ := ihs h.1 hs v
    obtain ⟨τ, hreadt, hmeanst⟩ := iht h.2 ht v
    obtain ⟨ρ, ⟨hrs, hms⟩, hrt, hmt⟩ := exists_splice h.1 h.2 hdisjoint σ τ
    refine ⟨ρ, ?_, by rw [means, hms, hmt, hmeanss, hmeanst, Bool.or_self]⟩
    rw [parts, List.any_append, hrs, hrt, hreads, hreadt, Bool.or_self]

/-- With AND after an OR outside parentheses, what stands before the OR suffices. -/
lemma exists_misread_left (hs : s.IsFull) (ht : t.IsFull) (hnodup : (s.and t).atoms.Nodup)
    (hopen : s.isOpen = true) :
    ∃ σ, (s.and t).parts.any (eval σ) = true ∧ (s.and t).means σ = false := by
  obtain ⟨hns, hnt, hdisjoint⟩ := List.nodup_append'.mp hnodup
  obtain ⟨ps, p, q, qs, hps, hqs⟩ := exists_parts hs ht
  have hatoms := flatMap_atoms_parts hs
  rw [hps, List.flatMap_append] at hatoms
  -- the parts before the last one stay outside of the AND
  have hne : ps ≠ [] := by
    rintro rfl
    simp [isOpen, hps] at hopen
  have hps_nodup : (ps.flatMap Formula.atoms).Nodup := by
    rw [← hatoms] at hns
    exact (List.nodup_append'.mp hns).1
  obtain ⟨σ, hσ⟩ := exists_any_eval hne hps_nodup true
  obtain ⟨τ, -, hτ⟩ := exists_both ht hnt false
  obtain ⟨ρ, hρσ, hρτ⟩ := exists_joint hdisjoint σ τ
  refine ⟨ρ, ?_, by rw [means, means_congr hρτ, hτ, Bool.and_false]⟩
  have hρ : ps.any (eval ρ) = true := by
    rw [← hσ]
    refine any_eval_congr fun t ht => hρσ t ?_
    rw [← hatoms]
    exact List.mem_append_left _ ht
  rw [parts, hps, hqs, meet_append, List.any_append, hρ, Bool.true_or]

/-- With AND before an OR outside parentheses, what stands after the OR suffices. -/
lemma exists_misread_right (hs : s.IsFull) (ht : t.IsFull) (hnodup : (s.and t).atoms.Nodup)
    (hopen : t.isOpen = true) :
    ∃ σ, (s.and t).parts.any (eval σ) = true ∧ (s.and t).means σ = false := by
  obtain ⟨hns, hnt, hdisjoint⟩ := List.nodup_append'.mp hnodup
  obtain ⟨ps, p, q, qs, hps, hqs⟩ := exists_parts hs ht
  have hatoms := flatMap_atoms_parts ht
  rw [hqs, List.flatMap_cons] at hatoms
  have hne : qs ≠ [] := by
    rintro rfl
    simp [isOpen, hqs] at hopen
  have hqs_nodup : (qs.flatMap Formula.atoms).Nodup := by
    rw [← hatoms] at hnt
    exact (List.nodup_append'.mp hnt).2.1
  obtain ⟨τ, hτ⟩ := exists_any_eval hne hqs_nodup true
  obtain ⟨σ, -, hσ⟩ := exists_both hs hns false
  obtain ⟨ρ, hρσ, hρτ⟩ := exists_joint hdisjoint σ τ
  refine ⟨ρ, ?_, by rw [means, means_congr hρσ, hσ, Bool.false_and]⟩
  have hρ : qs.any (eval ρ) = true := by
    rw [← hτ]
    refine any_eval_congr fun t ht => hρτ t ?_
    rw [← hatoms]
    exact List.mem_append_right _ ht
  rw [parts, hps, hqs, meet_append, List.any_append, List.any_cons, hρ, Bool.or_true, Bool.or_true]

/-- Where one of two texts is misread, the whole is misread as soon as the other is neutral. -/
lemma exists_misread_side {op : Bool → Bool → Bool} {neutral : Bool}
    (hleft : ∀ v, op neutral v = v) (hright : ∀ v, op v neutral = v) (hs : s.IsFull)
    (ht : t.IsFull) (hnodup : (s.atoms ++ t.atoms).Nodup)
    (h : (∃ σ, s.parts.any (eval σ) ≠ s.means σ) ∨ ∃ τ, t.parts.any (eval τ) ≠ t.means τ) :
    ∃ ρ, op (s.parts.any (eval ρ)) (t.parts.any (eval ρ)) ≠ op (s.means ρ) (t.means ρ) := by
  obtain ⟨hns, hnt, hdisjoint⟩ := List.nodup_append'.mp hnodup
  rcases h with ⟨σ, hσ⟩ | ⟨τ, hτ⟩
  · obtain ⟨τ, hread, hmeans⟩ := exists_both ht hnt neutral
    obtain ⟨ρ, ⟨hrs, hms⟩, hrt, hmt⟩ := exists_splice hs ht hdisjoint σ τ
    exact ⟨ρ, by rwa [hrt, hmt, hread, hmeans, hright, hright, hrs, hms]⟩
  · obtain ⟨σ, hread, hmeans⟩ := exists_both hs hns neutral
    obtain ⟨ρ, ⟨hrs, hms⟩, hrt, hmt⟩ := exists_splice hs ht hdisjoint σ τ
    exact ⟨ρ, by rwa [hrs, hms, hread, hmeans, hleft, hleft, hrt, hmt]⟩

/-- A text in which a side of an AND has an OR outside parentheses can be read with another truth
value than is meant, if no atomic predicate stands in it twice. -/
theorem exists_misread (h : s.IsFull) (hnodup : s.atoms.Nodup) (hgrouped : ¬s.Grouped) :
    ∃ σ, s.parts.any (eval σ) ≠ s.means σ := by
  induction s with
  | phrase ps => exact absurd trivial hgrouped
  | not s ih =>
    obtain ⟨σ, hσ⟩ := ih h hnodup hgrouped
    exact ⟨σ, by rw [any_parts_not h, means]; simpa using hσ⟩
  | parens s ih =>
    obtain ⟨σ, hσ⟩ := ih h hnodup hgrouped
    exact ⟨σ, by rwa [any_parts_parens h, means]⟩
  | and s t ihs iht =>
    obtain ⟨hns, hnt, -⟩ := List.nodup_append'.mp hnodup
    by_cases hs : s.isOpen = true
    · obtain ⟨σ, hread, hmeans⟩ := exists_misread_left h.1 h.2 hnodup hs
      exact ⟨σ, by rw [hread, hmeans]; decide⟩
    by_cases ht : t.isOpen = true
    · obtain ⟨σ, hread, hmeans⟩ := exists_misread_right h.1 h.2 hnodup ht
      exact ⟨σ, by rw [hread, hmeans]; decide⟩
    -- the AND itself is read as it is meant, so one of its sides is not
    rw [Bool.not_eq_true] at hs ht
    have hside : ¬s.Grouped ∨ ¬t.Grouped := by
      rw [← not_and_or]
      intro hboth
      exact hgrouped ⟨⟨hs, ht⟩, hboth⟩
    obtain ⟨ρ, hρ⟩ := exists_misread_side Bool.true_and Bool.and_true h.1 h.2 hnodup
      (hside.imp (ihs h.1 hns) (iht h.2 hnt))
    obtain ⟨p, hp⟩ := exists_parts_eq_singleton h.1 hs
    obtain ⟨q, hq⟩ := exists_parts_eq_singleton h.2 ht
    have hmeet : meet [p] [q] = [p.and q] := meet_append [] [] p q
    refine ⟨ρ, ?_⟩
    rw [hp, hq] at hρ
    rw [parts, hp, hq, hmeet, means]
    simpa [eval] using hρ
  | or s t ihs iht =>
    obtain ⟨hns, hnt, -⟩ := List.nodup_append'.mp hnodup
    have hside : ¬s.Grouped ∨ ¬t.Grouped := by
      rw [← not_and_or]
      exact hgrouped
    obtain ⟨ρ, hρ⟩ := exists_misread_side Bool.false_or Bool.or_false h.1 h.2 hnodup
      (hside.imp (ihs h.1 hns) (iht h.2 hnt))
    exact ⟨ρ, by rwa [parts, means, List.any_append]⟩

end Spelling

end SqlCompose
