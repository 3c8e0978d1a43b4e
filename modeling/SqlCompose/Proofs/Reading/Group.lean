import Mathlib
import SqlCompose.Proofs.Reading.Fragment
import SqlCompose.Proofs.Reading.Spelling

/-!
# Reading groups

The members of a group are written one after the other, with AND or with OR between neighbours. What
the group is read as follows from what each of them is read as, where it stands.
-/

namespace SqlCompose

open Fragment Formula

variable {σ : List Token → Bool}

/-! ### Phrases -/

def Dialect.parts (d : Dialect) (s : String) : List Formula :=
  match d.items? s with
  | some is => if isQuery is then [] else ((disjuncts is).mapM ofConjunction?).getD []
  | none => []

namespace Formula

variable {fs : List Formula} {parts : List (List Item)}

lemma forall₂_readsPart (h : parts.mapM ofConjunction? = some fs) :
    List.Forall₂ ReadsPart parts fs := by
  induction parts generalizing fs with
  | nil =>
    obtain rfl := Option.some.inj h
    exact .nil
  | cons part parts ih =>
    rw [List.mapM_cons] at h
    obtain ⟨f, hf, hrest⟩ := Option.bind_eq_some_iff.mp h
    obtain ⟨gs, hgs, hfs⟩ := Option.bind_eq_some_iff.mp hrest
    obtain rfl := Option.some.inj hfs
    exact .cons ⟨f, hf, .refl f⟩ (ih hgs)

/-- The truth value of a disjunction is that of its parts. -/
lemma eval_combine_or (fs : List Formula) :
    (combine Formula.or fs).any (eval σ) = fs.any (eval σ) := by
  cases fs with
  | nil => rfl
  | cons f fs => simp [combine, eval_foldl_or]

end Formula

namespace Dialect

variable {d : Dialect} {s : String} {is : List Item} {ps : List Formula}

/-- The parts of a text have together the truth value that it is read with. -/
lemma any_parts (d : Dialect) (s : String) :
    (d.parts s).any (eval σ) = (d.read? s).any (eval σ) := by
  unfold parts read?
  cases d.items? s with
  | none => rfl
  | some is =>
    dsimp only [Option.bind_some]
    unfold ofItems?
    split
    · rfl
    · cases (disjuncts is).mapM ofConjunction? with
      | none => rfl
      | some fs => exact (eval_combine_or fs).symm

lemma any_value_parts (d : Dialect) (s : String) (τ : List Token → Truth) :
    .any ((d.parts s).map (Formula.value τ)) = (d.read? s).elim .no (Formula.value τ) := by
  unfold parts read?
  cases d.items? s with
  | none => rfl
  | some is =>
    dsimp only [Option.bind_some]
    unfold ofItems?
    split
    · rfl
    · cases (disjuncts is).mapM ofConjunction? with
      | none => rfl
      | some fs =>
        cases fs with
        | nil => rfl
        | cons f fs => exact (value_foldl_or τ f fs).symm

/-- A text that is read is the disjunction of its parts. -/
lemma exists_reads_parts (h : (d.read? s).isSome = true) :
    ∃ is, d.items? s = some is ∧ Reads is (d.parts s) := by
  obtain ⟨f, hf⟩ := Option.isSome_iff_exists.mp h
  obtain ⟨is, his, hof⟩ := Option.bind_eq_some_iff.mp hf
  refine ⟨is, his, ?_⟩
  unfold ofItems? at hof
  split at hof
  · simp at hof
  · rename_i hquery
    obtain ⟨fs, hfs, -⟩ := Option.bind_eq_some_iff.mp hof
    rw [parts, his]
    dsimp only
    rw [if_neg hquery, hfs]
    exact ⟨by simpa using hquery, forall₂_readsPart hfs⟩

/-- The number of parts does not depend on how they are found. -/
lemma reads_parts (his : d.items? s = some is) (h : Reads is ps) :
    Reads is (d.parts s) ∧ (d.parts s).length = ps.length := by
  obtain ⟨hquery, hps⟩ := h
  obtain ⟨fs, hfs, halike⟩ := exists_mapM_ofConjunction? hps
  have hparts : d.parts s = fs := by
    rw [parts, his]
    dsimp only
    rw [hquery, hfs]
    rfl
  rw [hparts]
  exact ⟨⟨hquery, forall₂_readsPart hfs⟩, halike.length_eq⟩

end Dialect

/-! ### Connected spellings -/

namespace Spelling

/-- Texts with AND, or with OR, between neighbours. -/
def join (conjunction : Bool) : List Spelling → Spelling
  | [] => phrase []
  | [s] => s
  | s :: t :: ss =>
    if conjunction then s.and (join conjunction (t :: ss)) else s.or (join conjunction (t :: ss))

variable {s t : Spelling} {ss : List Spelling} {conjunction : Bool}

/-- With AND between them, some spellings mean that all hold. -/
lemma means_join_and (hne : ss ≠ []) : (join true ss).means σ = ss.all (means σ) := by
  induction ss with
  | nil => exact absurd rfl hne
  | cons s ss ih =>
    cases ss with
    | nil => simp [join]
    | cons t ss =>
      rw [join, if_pos rfl, means, ih (by simp)]
      rfl

lemma means_join_or (ss : List Spelling) : (join false ss).means σ = ss.any (means σ) := by
  induction ss with
  | nil => rfl
  | cons s ss ih =>
    cases ss with
    | nil => simp [join]
    | cons t ss =>
      rw [join, if_neg (by decide), means, ih]
      rfl

lemma value_join_and {τ : List Token → Truth} (hne : ss ≠ []) :
    (join true ss).value τ = .all (ss.map (value τ)) := by
  induction ss with
  | nil => exact absurd rfl hne
  | cons s ss ih =>
    cases ss with
    | nil => simp [join]
    | cons t ss =>
      rw [join, if_pos rfl, value, ih (by simp)]
      rfl

lemma value_join_or {τ : List Token → Truth} (ss : List Spelling) :
    (join false ss).value τ = .any (ss.map (value τ)) := by
  induction ss with
  | nil => rfl
  | cons s ss ih =>
    cases ss with
    | nil => simp [join]
    | cons t ss =>
      rw [join, if_neg (by decide), value, ih]
      rfl

lemma isFull_join (hne : ss ≠ []) (h : ∀ s ∈ ss, s.IsFull) : (join conjunction ss).IsFull := by
  induction ss with
  | nil => exact absurd rfl hne
  | cons s ss ih =>
    rw [List.forall_mem_cons] at h
    cases ss with
    | nil => exact h.1
    | cons t ss =>
      have hrest := ih (by simp) h.2
      cases conjunction with
      | true => exact ⟨h.1, hrest⟩
      | false => exact ⟨h.1, hrest⟩

/-- A conjunction has an OR outside parentheses if one of its sides has. -/
lemma isOpen_and (hs : s.IsFull) (ht : t.IsFull) :
    (s.and t).isOpen = (s.isOpen || t.isOpen) := by
  obtain ⟨ps, p, q, qs, hps, hqs⟩ := exists_parts hs ht
  rw [isOpen, isOpen, isOpen, parts, hps, hqs, meet_append, ← Bool.decide_or, decide_eq_decide]
  simp only [List.length_append, List.length_cons, List.length_nil]
  omega

lemma isOpen_or (hs : s.IsFull) (ht : t.IsFull) : (s.or t).isOpen = true := by
  have hpos := List.length_pos_of_ne_nil (parts_ne_nil hs)
  have hpos' := List.length_pos_of_ne_nil (parts_ne_nil ht)
  rw [isOpen, parts, List.length_append, decide_eq_true_iff]
  omega

/-- A conjunction of several texts is open if one of them is. -/
lemma isOpen_join_and (hne : ss ≠ []) (h : ∀ s ∈ ss, s.IsFull) :
    (join true ss).isOpen = ss.any isOpen := by
  induction ss with
  | nil => exact absurd rfl hne
  | cons s ss ih =>
    rw [List.forall_mem_cons] at h
    cases ss with
    | nil => simp [join]
    | cons t ss =>
      rw [join, if_pos rfl, isOpen_and h.1 (isFull_join (by simp) h.2), ih (by simp) h.2]
      rfl

/-- A disjunction is open if it has several members, or one that is open. -/
lemma isOpen_join_or (h : ∀ s ∈ ss, s.IsFull) (hne : ss ≠ []) :
    (join false ss).isOpen = (decide (1 < ss.length) || ss.any isOpen) := by
  match ss with
  | [] => exact absurd rfl hne
  | [s] => simp [join]
  | s :: t :: ss =>
    rw [List.forall_mem_cons] at h
    rw [join, if_neg (by decide), isOpen_or h.1 (isFull_join (by simp) h.2)]
    simp

/-- A conjunction is grouped if no member is open beside others. -/
lemma grouped_join_and (h : ∀ s ∈ ss, s.IsFull) : (join true ss).Grouped ↔
    (1 < ss.length → ss.any isOpen = false) ∧ ∀ s ∈ ss, s.Grouped := by
  induction ss with
  | nil => simp [join, Grouped]
  | cons s ss ih =>
    rw [List.forall_mem_cons] at h
    cases ss with
    | nil => simp [join]
    | cons t ss =>
      rw [join, if_pos rfl, Grouped, ih h.2, isOpen_join_and (by simp) h.2]
      simp only [List.any_cons, List.forall_mem_cons, List.length_cons, Bool.or_eq_false_iff]
      constructor
      · rintro ⟨⟨hs, ht⟩, hgs, -, hg⟩
        exact ⟨fun _ => ⟨hs, ht⟩, hgs, hg⟩
      · rintro ⟨hopen, hgs, hg⟩
        obtain ⟨hs, ht⟩ := hopen (by omega)
        exact ⟨⟨hs, ht⟩, hgs, fun _ => ht, hg⟩

lemma grouped_join_or (ss : List Spelling) :
    (join false ss).Grouped ↔ ∀ s ∈ ss, s.Grouped := by
  induction ss with
  | nil => simp [join, Grouped]
  | cons s ss ih =>
    cases ss with
    | nil => simp [join]
    | cons t ss =>
      rw [join, if_neg (by decide), Grouped, ih]
      exact List.forall_mem_cons.symm

end Spelling

/-! ### Members -/

/-- Where every fragment has a text, none is passed over. -/
lemma Fragment.joinNonBlank_eq_join {sep : String} {fs : List Fragment}
    (h : ∀ f ∈ fs, f.isBlank = false) : joinNonBlank sep fs = join sep fs := by
  have hlater (f : Fragment) (fs : List Fragment) (h : ∀ f ∈ fs, f.isBlank = false) :
      f ++ joinFrom sep true fs = List.intercalate [.text sep] (f :: fs) := by
    induction fs generalizing f with
    | nil => simp [joinFrom]
    | cons g fs ih =>
      rw [List.forall_mem_cons] at h
      rw [joinFrom, h.1, List.intercalate_cons_cons, ← ih g h.2]
      simp
  cases fs with
  | nil => rfl
  | cons f fs =>
    rw [List.forall_mem_cons] at h
    rw [joinNonBlank, joinFrom, h.1, join, ← hlater f fs h.2]
    simp

/-- A group in which every member has a text. -/
lemma Fragment.group_eq_join {conjunction : Bool} {members : List (Bool × Fragment)}
    (h : ∀ m ∈ members, m.2.isBlank = false) :
    group conjunction members = join (if conjunction then " AND " else " OR ")
      (members.map fun m =>
        if m.1 && !decide (members.length ≤ 1) then bracket m.2 else m.2) := by
  have hall : (members.filter fun m => !m.2.isBlank) = members :=
    List.filter_eq_self.mpr fun m hm => by rw [h m hm]; rfl
  have hmap : (members.map fun m =>
      if m.1 && !decide (members.length ≤ 1) && !m.2.isBlank then bracket m.2 else m.2) =
      members.map fun m => if m.1 && !decide (members.length ≤ 1) then bracket m.2 else m.2 :=
    List.map_congr_left fun m hm => by rw [h m hm, Bool.not_false, Bool.and_true]
  rw [group]
  dsimp only
  rw [hall, hmap]
  apply joinNonBlank_eq_join
  intro f hf
  obtain ⟨m, hm, rfl⟩ := List.mem_map.mp hf
  split
  · rfl
  · exact h m hm

/-- What is read has a text. -/
lemma Binding.Reads.isBlank_eq_false {b : Binding} {f : Fragment} {ps : List Formula}
    (h : b.Reads f ps) : f.isBlank = false := by
  obtain ⟨is, his, hreads⟩ := h
  by_contra hblank
  rw [Bool.not_eq_false] at hblank
  have hempty : b.dialect.items? "" = some [] := rfl
  rw [textOf_of_isBlank hblank, hempty] at his
  obtain rfl := Option.some.inj his
  exact hreads.ne_nil rfl

/-- Fragments that refuse nothing, written one after the other, are read as these spellings. -/
inductive Binding.ReadsAll : Binding → List Fragment → List Spelling → Prop
  | nil {b : Binding} : ReadsAll b [] []
  | cons {b : Binding} {f : Fragment} {s : Spelling} {fs : List Fragment} {ss : List Spelling}
      (herror : f.error? = none) (hread : b.Reads f s.parts) (hfull : s.IsFull)
      (hrest : ReadsAll (b.after f) fs ss) : ReadsAll b (f :: fs) (s :: ss)

namespace Binding.ReadsAll

variable {b : Binding} {fs : List Fragment} {ss : List Spelling}

lemma isFull (h : b.ReadsAll fs ss) : ∀ s ∈ ss, s.IsFull := by
  induction h with
  | nil => simp
  | cons _ _ hfull _ ih => exact List.forall_mem_cons.mpr ⟨hfull, ih⟩

/-- Members with AND, or with OR, between neighbours. -/
lemma join (h : b.ReadsAll fs ss) (hne : fs ≠ []) (conjunction : Bool) :
    b.Reads (Fragment.join (if conjunction then " AND " else " OR ") fs)
      (Spelling.join conjunction ss).parts := by
  unfold Fragment.join
  induction h with
  | nil => exact absurd rfl hne
  | @cons b f s fs ss herror hread hfull hrest ih =>
    cases hrest with
    | nil => simpa [Spelling.join] using hread
    | @cons _ g t gs ts herror' hread' hfull' hrest' =>
      have hlater := ih (by simp)
      have hall := (ReadsAll.cons herror' hread' hfull' hrest').isFull
      rw [List.intercalate_cons_cons, List.append_assoc]
      cases conjunction with
      | true =>
        -- the last part of the first member and the first part of the others become one
        have hjoin : (Spelling.join true (t :: ts)).IsFull := Spelling.isFull_join (by simp) hall
        obtain ⟨ps, p, q, qs, hps, hqs⟩ := Spelling.exists_parts hfull hjoin
        rw [hps] at hread
        rw [hqs] at hlater
        rw [if_pos rfl, Spelling.join, if_pos rfl, Spelling.parts, hps, hqs, meet_append]
        exact hread.and herror hlater
      | false =>
        exact hread.or herror hlater

end Binding.ReadsAll

end SqlCompose
