import Mathlib
import SqlCompose.Condition.Basic
import SqlCompose.Proofs.Filter.Kept
import SqlCompose.Proofs.Fragment.Blank
import SqlCompose.Proofs.Fragment.Query
import SqlCompose.Proofs.Fragment.Trim
import SqlCompose.Proofs.Reading.Group

/-!
# Conditions without a text

A condition has no text if none of its leaves has one, whatever groups and negations they stand in.
There are two kinds of such leaves: those that are empty, and the negated lists without members.
Whether a condition is empty is asked of its leaves too, but only the first kind counts as empty.
-/

namespace SqlCompose

open Fragment

/-! ### Leaves -/

mutual
/-- What a condition combines by groups and negations. -/
def Condition.leaves : Condition → List Condition
  | .and items => leavesOf items
  | .or items => leavesOf items
  | .not item => item.leaves
  | c => [c]

def leavesOf : List Condition → List Condition
  | [] => []
  | item :: items => item.leaves ++ leavesOf items
end

/-- Whether a leaf has no text. -/
def Condition.isSilent (c : Condition) : Bool := c.isEmpty || c.emptyList? == some true

/-- A list without members does not count as empty. -/
lemma Condition.isEmpty_eq_false_of_emptyList {c : Condition} {negated : Bool}
    (h : c.emptyList? = some negated) : c.isEmpty = false := by
  unfold Condition.emptyList? at h
  split at h
  · rfl
  · rfl
  · rfl
  · simp at h

mutual
/-- A condition is empty if its leaves are. -/
theorem Condition.isEmpty_eq_all_leaves (c : Condition) :
    c.isEmpty = c.leaves.all Condition.isEmpty := by
  match c with
  | .and items | .or items => exact areEmpty_eq_all_leaves items
  | .not item => exact item.isEmpty_eq_all_leaves
  | .hash _ | .between .. | .within .. | .like .. | .exist .. | .compare .. | .raw .. | .expr _
  | .lookup .. => exact (Bool.and_true _).symm

theorem areEmpty_eq_all_leaves (items : List Condition) :
    Condition.areEmpty items = (leavesOf items).all Condition.isEmpty := by
  match items with
  | [] => rfl
  | item :: items =>
    rw [Condition.areEmpty, leavesOf, List.all_append, item.isEmpty_eq_all_leaves,
      areEmpty_eq_all_leaves items]
end

/-! ### Conditions -/

lemma beq_some_true (negated : Bool) : (some negated == some true) = negated := by
  cases negated <;> rfl

namespace Condition

/-- Only the negation of a membership in nothing has no text; a width that does not fit is refused
before it. -/
lemma isBlank_within (d : Dialect) (columns : List String) (members : Members) (negated : Bool) :
    Fragment.isBlank ((within columns members negated).fragment d) =
      (within columns members negated).isSilent := by
  cases members with
  | query q =>
    have hsilent : (within columns (.query q) negated).isSilent = false := by
      simp [isSilent, isEmpty, emptyList?]
    rw [Condition.fragment, hsilent]
    split
    · rfl
    · cases negated <;> simp
  | list values =>
    match columns with
    | [] => rfl
    | [column] =>
      have hblank := isBlank_inList d column values negated
      cases values with
      | nil => exact hblank.trans (beq_some_true negated).symm
      | cons v values => exact hblank
    | _ :: _ :: _ => rfl
  | rows rows =>
    match columns with
    | [] => rfl
    | column :: columns =>
      have hblank := isBlank_inRows d (List.cons_ne_nil column columns) rows negated
      cases rows with
      | nil =>
        have hempty : (within (column :: columns) (.rows []) negated).isSilent =
            (some negated == some true) := by cases columns <;> rfl
        rw [hempty, beq_some_true]
        exact hblank
      | cons row rows =>
        have hsome :
            (within (column :: columns) (.rows (row :: rows)) negated).isSilent = false := by
          cases columns <;> rfl
        rw [hsome]
        exact hblank

/-- A comparison has a text, whatever it compares with. -/
lemma isBlank_compare (d : Dialect) (column : String) (op : CompareOp) (operand : Operand) :
    Fragment.isBlank ((compare column op operand).fragment d) = false := by
  cases operand with
  | value v =>
    rw [Condition.fragment]
    split <;> simp
  | list values => rfl
  | query q | expr e => simp [Condition.fragment]

/-- A lookup has a text or is refused. -/
lemma isBlank_lookup (d : Dialect) (field : String) (lookup : Lookup) (operand : Operand) :
    Fragment.isBlank ((Condition.lookup field lookup operand).fragment d) = false := by
  by_cases h : ∀ q, lookup = .within → operand ≠ .query q
  · rw [fragment_lookup h]
    exact Fragment.isBlank_lookup ..
  · push Not at h
    obtain ⟨q, rfl, rfl⟩ := h
    simp [Condition.fragment]

end Condition

mutual
/-- A condition has no text and refuses nothing exactly if this holds of its leaves. -/
theorem Condition.isBlank_fragment (d : Dialect) (c : Condition) :
    Fragment.isBlank (c.fragment d) = c.leaves.all Condition.isSilent := by
  match c with
  | .and items =>
    rw [Condition.fragment, isBlank_group]
    exact all_isBlank_memberFragments d true items
  | .or items =>
    rw [Condition.fragment, isBlank_group]
    exact all_isBlank_memberFragments d false items
  | .not item =>
    have hitem := item.isBlank_fragment d
    rw [Condition.fragment]
    split
    · exact hitem
    · rename_i hf
      rw [Bool.not_eq_true] at hf
      rw [isBlank_cons, isBlank_bracket, Bool.and_false]
      exact hf.symm.trans hitem
  | .hash pairs =>
    rw [Condition.fragment, isBlank_joinNonBlank, all_isBlank_hashFragments]
    simp [Condition.leaves, Condition.isSilent, Condition.isEmpty, Condition.emptyList?]
  | .within columns members negated =>
    rw [Condition.isBlank_within]
    exact (Bool.and_true _).symm
  | .like op column values rawPattern =>
    rw [Condition.fragment, isBlank_like]
    cases values <;>
      simp [Condition.leaves, Condition.isSilent, Condition.isEmpty, Condition.emptyList?]
  | .lookup field lookup operand => exact Condition.isBlank_lookup d field lookup operand
  | .raw sql _ =>
    rw [Condition.fragment, isBlank_cons, isBlank_cons, isBlank_text, Text.isEmpty_trim]
    simp [Condition.leaves, Condition.isSilent, Condition.isEmpty, Condition.emptyList?]
  | .expr e =>
    rw [Condition.fragment, isBlank_cons, isBlank_cons, isBlank_text, Text.isEmpty_trim]
    simp [Condition.leaves, Condition.isSilent, Condition.isEmpty, Condition.emptyList?]
  | .compare column op operand => exact Condition.isBlank_compare d column op operand
  | .between .. | .exist .. =>
    simp [Condition.fragment, Condition.leaves, Condition.isSilent, Condition.isEmpty,
      Condition.emptyList?]

/-- The members of a group have no text exactly if all their leaves are silent. -/
theorem all_isBlank_memberFragments (d : Dialect) (conjunction : Bool) (items : List Condition) :
    ((memberFragments d conjunction items).all fun m => Fragment.isBlank m.2) =
      (leavesOf items).all Condition.isSilent := by
  match items with
  | [] => rfl
  | item :: items =>
    rw [memberFragments, List.all_cons, leavesOf, List.all_append, item.isBlank_fragment d,
      all_isBlank_memberFragments d conjunction items]
end

/-! ### Texts -/

namespace Condition

variable {b : Binding} {c : Condition} {text : String}

/-- The text of a condition is empty exactly if each leaf is empty or a negated list without
members. It is so for each empty condition, and for no other one unless there is such a list. -/
theorem text_eq_empty_iff (h : (b.write (c.fragment b.dialect)).1 = .ok text) :
    (text = "" ↔ ∀ leaf ∈ c.leaves, leaf.isEmpty = true ∨ leaf.emptyList? = some true) ∧
    (c.isEmpty = true → text = "") ∧
    ((c.isEmpty = true ↔ text = "") ↔
      ¬(text = "" ∧ ∃ leaf ∈ c.leaves, leaf.emptyList? = some true)) := by
  have herror := Binding.error?_eq_none_of_write h
  obtain rfl := Except.ok.inj ((Binding.write_fst_eq_textOf herror).symm.trans h)
  have htext : b.textOf (c.fragment b.dialect) = "" ↔
      ∀ leaf ∈ c.leaves, leaf.isEmpty = true ∨ leaf.emptyList? = some true := by
    rw [Binding.textOf_eq_empty_iff herror, c.isBlank_fragment, List.all_eq_true]
    simp only [isSilent, Bool.or_eq_true, beq_iff_eq]
  have hleaves : c.isEmpty = true ↔ ∀ leaf ∈ c.leaves, leaf.isEmpty = true := by
    rw [c.isEmpty_eq_all_leaves, List.all_eq_true]
  have hempty : c.isEmpty = true → b.textOf (c.fragment b.dialect) = "" := fun hc =>
    htext.mpr fun leaf hleaf => .inl (hleaves.mp hc leaf hleaf)
  refine ⟨htext, hempty, fun hiff => ?_, fun hno => ⟨hempty, fun hsilent => ?_⟩⟩
  · rintro ⟨hsilent, leaf, hleaf, hlist⟩
    have hfalse := isEmpty_eq_false_of_emptyList hlist
    rw [hleaves.mp (hiff.mpr hsilent) leaf hleaf] at hfalse
    simp at hfalse
  · refine hleaves.mpr fun leaf hleaf => (htext.mp hsilent leaf hleaf).resolve_right fun hlist => ?_
    exact hno ⟨hsilent, leaf, hleaf, hlist⟩

/-- To be none of no values has no text; but this condition does not count as empty. -/
theorem text_eq_empty_iff_excludesNothing :
    ∃ text, ((Binding.start .mysql false).write ((Condition.notIn "a" []).fragment .mysql)).1 =
        .ok text ∧
      text = "" ∧ (Condition.notIn "a" []).isEmpty = false ∧
      ¬((Condition.notIn "a" []).isEmpty = true ↔ text = "") := by
  have hwrite : ((Binding.start .mysql false).write
      ((Condition.notIn "a" []).fragment .mysql)).1 = .ok "" := rfl
  obtain ⟨-, -, hiff⟩ := text_eq_empty_iff hwrite
  refine ⟨"", hwrite, rfl, rfl, fun hsame => hiff.mp hsame ⟨rfl, ?_⟩⟩
  exact ⟨.notIn "a" [], List.mem_cons_self, rfl⟩

end Condition

end SqlCompose
