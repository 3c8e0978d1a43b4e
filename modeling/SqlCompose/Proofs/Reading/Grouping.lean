import Mathlib
import SqlCompose.Fragment.Query
import SqlCompose.Proofs.Reading.Group

/-!
# Grouped conditions

A condition is grouped if in no conjunction of several members one has an OR outside parentheses.
Parentheses are written around a member by its kind alone, so a disjunction that is the only member
of a conjunction inside another conjunction gets none. Such lone members are the only reason why a
condition is not grouped.
-/

namespace SqlCompose

open Fragment

/-- Whether a verbatim condition has an OR outside parentheses. -/
def Dialect.isDisjunction (d : Dialect) (sql : String) : Bool :=
  decide (1 < (d.parts (Text.trim sql)).length)

mutual
/-- Whether the text of a condition has an OR outside parentheses. -/
def Condition.isOpen (d : Dialect) : Condition → Bool
  | .and items => anyOpen d true (decide (items.length ≤ 1)) items
  | .or items => decide (1 < items.length) || anyOpen d false (decide (items.length ≤ 1)) items
  | .raw sql _ => d.isDisjunction sql
  | .expr e => d.isDisjunction e.sql
  | _ => false

/-- Whether a member of a group has an OR outside parentheses in its place. -/
def anyOpen (d : Dialect) (conjunction alone : Bool) : List Condition → Bool
  | [] => false
  | item :: items =>
    (!(needsBrackets conjunction item && !alone) && item.isOpen d) ||
      anyOpen d conjunction alone items
end

mutual
/-- In every conjunction of several members, none has an OR outside parentheses in its place. -/
def Condition.IsGrouped (d : Dialect) : Condition → Prop
  | .and items => (1 < items.length → anyOpen d true false items = false) ∧ areGrouped d items
  | .or items => areGrouped d items
  | .not item => item.IsGrouped d
  | _ => True

/-- Every member of a group is grouped. -/
def areGrouped (d : Dialect) : List Condition → Prop
  | [] => True
  | item :: items => item.IsGrouped d ∧ areGrouped d items
end

mutual
/-- Every conjunction has several members. -/
def Condition.IsBranching : Condition → Prop
  | .and items => 1 < items.length ∧ areBranching items
  | .or items => areBranching items
  | .not item => item.IsBranching
  | _ => True

/-- In every member of a group, every conjunction has several members. -/
def areBranching : List Condition → Prop
  | [] => True
  | item :: items => item.IsBranching ∧ areBranching items
end

lemma areBranching_iff {items : List Condition} : areBranching items ↔
    ∀ item ∈ items, item.IsBranching := by
  induction items with
  | nil => simp [areBranching]
  | cons item items ih => rw [areBranching, ih, List.forall_mem_cons]

mutual
/-- A conjunction of several members has parentheses around each OR. -/
lemma Condition.isOpen_eq_false (d : Dialect) (c : Condition) (h : c.IsBranching)
    (hbrackets : needsBrackets true c = false) : c.isOpen d = false := by
  match c with
  | .and items =>
    rw [Condition.isOpen, decide_eq_false (by simpa using h.1)]
    exact anyOpen_eq_false d items h.2
  | .or items => simp [needsBrackets] at hbrackets
  | .raw .. | .expr _ => simp [needsBrackets] at hbrackets
  | .not _ | .hash _ | .between .. | .within .. | .like .. | .exist .. | .compare ..
  | .lookup .. => rfl

/-- Where every conjunction has several members, none is open beside others. -/
lemma anyOpen_eq_false (d : Dialect) (items : List Condition) (h : areBranching items) :
    anyOpen d true false items = false := by
  match items with
  | [] => rfl
  | item :: items =>
    rw [anyOpen, anyOpen_eq_false d items h.2, Bool.or_false]
    by_cases hbrackets : needsBrackets true item = true
    · rw [hbrackets]
      rfl
    · rw [Bool.not_eq_true] at hbrackets
      rw [item.isOpen_eq_false d h.1 hbrackets, Bool.and_false]
end

mutual
/-- Only a conjunction with a single member can keep a condition from being grouped. -/
theorem Condition.isGrouped_of_isBranching (d : Dialect) (c : Condition) (h : c.IsBranching) :
    c.IsGrouped d := by
  match c with
  | .and items =>
    exact ⟨fun _ => anyOpen_eq_false d items h.2, areGrouped_of_areBranching d items h.2⟩
  | .or items => exact areGrouped_of_areBranching d items h
  | .not item => exact item.isGrouped_of_isBranching d h
  | .raw .. | .expr _ | .hash _ | .between .. | .within .. | .like .. | .exist .. | .compare ..
  | .lookup .. => trivial

/-- Where every conjunction has several members, each member has its parentheses. -/
theorem areGrouped_of_areBranching (d : Dialect) (items : List Condition)
    (h : areBranching items) : areGrouped d items := by
  match items with
  | [] => trivial
  | item :: items =>
    exact ⟨item.isGrouped_of_isBranching d h.1, areGrouped_of_areBranching d items h.2⟩
end

end SqlCompose
