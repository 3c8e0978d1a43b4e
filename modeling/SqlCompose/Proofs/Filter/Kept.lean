import Mathlib
import SqlCompose.Fragment.Query
import SqlCompose.Query.Supplied

/-!
# What is kept of a condition

A negated list without members has no text, and neither has a group or a negation of nothing but
such lists. Leaving them out of a condition changes nothing in its text and in its parameters.
-/

namespace SqlCompose

open Fragment

/-! ### Leaving out what has no text -/

/-- Whether a condition that looks for a member of the empty list, or for a text that is like one of
no values, is negated; `none` for every other condition. -/
def Condition.emptyList? : Condition → Option Bool
  | .within [_] (.list []) negated => some negated
  | .within (_ :: _) (.rows []) negated => some negated
  | .like op _ [] _ => some op.isNegated
  | _ => none

/-- A group, unless it has no members. -/
def groupOf? (mk : List Condition → Condition) (items : List Condition) : Option Condition :=
  if items.isEmpty then none else some (mk items)

mutual
/-- What is left of a condition without its negated lists that have no members. -/
def Condition.kept : Condition → Option Condition
  | .and items => groupOf? .and (keptMembers items)
  | .or items => groupOf? .or (keptMembers items)
  | .not item => item.kept.map .not
  | c => if c.emptyList? = some true then none else some c

/-- What is left of the members of a group. -/
def keptMembers : List Condition → List Condition
  | [] => []
  | item :: items => item.kept.toList ++ keptMembers items
end

/-! ### The text -/

/-- A condition on an empty list is written as the fixed predicate. -/
lemma Condition.fragment_emptyList {d : Dialect} {c : Condition} {negated : Bool}
    (h : c.emptyList? = some negated) : c.fragment d = ofEmptyList negated := by
  unfold Condition.emptyList? at h
  split at h
  · obtain rfl := Option.some.inj h
    rfl
  · obtain rfl := Option.some.inj h
    rfl
  · obtain rfl := Option.some.inj h
    rfl
  · simp at h

namespace Fragment

/-- Members without text leave no separator behind. -/
lemma joinFrom_filter (sep : String) (started : Bool) (fs : List Fragment) :
    joinFrom sep started (fs.filter (!·.isEmpty)) = joinFrom sep started fs := by
  induction fs generalizing started with
  | nil => rfl
  | cons f fs ih =>
    cases f with
    | nil =>
      have hblank : isBlank [] = true := rfl
      rw [List.filter_cons_of_neg (by simp), joinFrom, hblank, if_pos rfl, ih]
      rfl
    | cons piece rest => rw [List.filter_cons_of_pos (by simp), joinFrom, joinFrom, ih, ih]

/-- Members without any piece do not count in a group. -/
lemma group_filter (conjunction : Bool) (members : List (Bool × Fragment)) :
    group conjunction (members.filter (!·.2.isEmpty)) = group conjunction members := by
  have hcount : (members.filter (!·.2.isEmpty)).filter (!·.2.isBlank) =
      members.filter (!·.2.isBlank) := by
    rw [List.filter_filter]
    refine List.filter_congr fun m _ => ?_
    cases m.2 <;> simp [isBlank]
  have hfilter (f : Bool × Fragment → Fragment) (hf : ∀ m, (f m).isEmpty = m.2.isEmpty) :
      (members.filter (!·.2.isEmpty)).map f = (members.map f).filter (!·.isEmpty) := by
    rw [List.filter_map]
    exact congrArg (List.map f) (List.filter_congr fun m _ => by simp [hf])
  rw [group, group]
  dsimp only
  rw [hcount, hfilter, joinNonBlank, joinFrom_filter, joinNonBlank]
  rintro ⟨brackets, f⟩
  cases f with
  | nil => simp [isBlank]
  | cons piece rest => split <;> simp [bracket]

end Fragment

/-- A condition that is no group is kept with its brackets, or has no text. -/
lemma Condition.fragment_kept_of_leaf {d : Dialect} {c : Condition}
    (h : c.kept = if c.emptyList? = some true then none else some c) :
    filterFragment d c.kept = c.fragment d ∧
      ∀ k ∈ c.kept, ∀ conjunction, needsBrackets conjunction k = needsBrackets conjunction c := by
  rw [h]
  split
  · rename_i hempty
    exact ⟨(Condition.fragment_emptyList hempty).symm, by simp⟩
  · exact ⟨rfl, by simp⟩

/-- Groups of the same members, but for those without any piece. -/
lemma Fragment.group_congr {conjunction : Bool} {members members' : List (Bool × Fragment)}
    (h : members.filter (!·.2.isEmpty) = members'.filter (!·.2.isEmpty)) :
    group conjunction members = group conjunction members' := by
  rw [← group_filter, h, group_filter]

/-- Where nothing is left of a group, no text is lost. -/
lemma filterFragment_groupOf? {d : Dialect} {mk : List Condition → Condition}
    {items : List Condition} (h : (mk []).fragment d = []) :
    filterFragment d (groupOf? mk items) = (mk items).fragment d := by
  unfold groupOf?
  split
  · rename_i hempty
    rw [List.isEmpty_iff.mp hempty, h]
    rfl
  · rfl

lemma eq_of_mem_groupOf? {mk : List Condition → Condition} {items : List Condition}
    {k : Condition} (h : k ∈ groupOf? mk items) : k = mk items := by
  unfold groupOf? at h
  split at h
  · simp at h
  · exact (Option.some.inj h).symm

mutual
/-- What is left out has no text, and what is kept is written as it was. -/
theorem Condition.fragment_kept (d : Dialect) (c : Condition) :
    filterFragment d c.kept = c.fragment d ∧
      ∀ k ∈ c.kept, ∀ conjunction, needsBrackets conjunction k = needsBrackets conjunction c := by
  match c with
  | .and items =>
    rw [Condition.kept, filterFragment_groupOf? rfl, Condition.fragment, Condition.fragment]
    refine ⟨group_congr (filter_memberFragments d true items), fun k hk conjunction => ?_⟩
    rw [eq_of_mem_groupOf? hk]
    rfl
  | .or items =>
    rw [Condition.kept, filterFragment_groupOf? rfl, Condition.fragment, Condition.fragment]
    refine ⟨group_congr (filter_memberFragments d false items), fun k hk conjunction => ?_⟩
    rw [eq_of_mem_groupOf? hk]
    rfl
  | .not item =>
    rw [Condition.kept, Condition.fragment, ← (item.fragment_kept d).1]
    cases item.kept with
    | none => exact ⟨rfl, by simp⟩
    | some k =>
      rw [Option.map_some, filterFragment, Condition.fragment, filterFragment]
      exact ⟨rfl, by simp [needsBrackets]⟩
  | .hash _ | .between .. | .within .. | .like .. | .exist .. | .compare .. | .raw .. | .expr _
  | .lookup .. => exact Condition.fragment_kept_of_leaf rfl

/-- The members that are left out are those that have no piece. -/
theorem filter_memberFragments (d : Dialect) (conjunction : Bool) (items : List Condition) :
    (memberFragments d conjunction (keptMembers items)).filter (!·.2.isEmpty) =
      (memberFragments d conjunction items).filter (!·.2.isEmpty) := by
  match items with
  | [] => rfl
  | item :: items =>
    obtain ⟨hfragment, hbrackets⟩ := item.fragment_kept d
    have hitems := filter_memberFragments d conjunction items
    rw [keptMembers, memberFragments, ← hfragment]
    cases hkept : item.kept with
    | none => exact hitems
    | some k =>
      rw [← hbrackets k hkept conjunction, Option.toList_some, List.singleton_append,
        memberFragments, List.filter_cons, List.filter_cons, hitems]
      rfl
end

/-! ### The parameters that are supplied -/

lemma Condition.suppliedNames_kept_of_leaf {c : Condition}
    (h : c.kept = if c.emptyList? = some true then none else some c) :
    namesOfFilter c.kept = c.suppliedNames := by
  rw [h]
  split
  · rename_i hempty
    unfold Condition.emptyList? at hempty
    split at hempty
    · rfl
    · rfl
    · rfl
    · simp at hempty
  · rfl

lemma namesOfFilter_groupOf? {mk : List Condition → Condition} {items : List Condition}
    (h : (mk []).suppliedNames = []) :
    namesOfFilter (groupOf? mk items) = (mk items).suppliedNames := by
  unfold groupOf?
  split
  · rename_i hempty
    rw [List.isEmpty_iff.mp hempty, h]
    rfl
  · rfl

mutual
/-- What is left out supplies no parameters. -/
theorem Condition.suppliedNames_kept (c : Condition) :
    namesOfFilter c.kept = c.suppliedNames := by
  match c with
  | .and items =>
    rw [Condition.kept, namesOfFilter_groupOf? rfl, Condition.suppliedNames,
      Condition.suppliedNames, namesOfConditions_kept]
  | .or items =>
    rw [Condition.kept, namesOfFilter_groupOf? rfl, Condition.suppliedNames,
      Condition.suppliedNames, namesOfConditions_kept]
  | .not item =>
    rw [Condition.kept, Condition.suppliedNames, ← item.suppliedNames_kept]
    cases item.kept <;> rfl
  | .hash _ | .between .. | .within .. | .like .. | .exist .. | .compare .. | .raw .. | .expr _
  | .lookup .. => exact Condition.suppliedNames_kept_of_leaf rfl

/-- The members that are dropped come with no parameters. -/
theorem namesOfConditions_kept (items : List Condition) :
    namesOfConditions (keptMembers items) = namesOfConditions items := by
  match items with
  | [] => rfl
  | item :: items =>
    rw [keptMembers, namesOfConditions, ← item.suppliedNames_kept, ← namesOfConditions_kept items]
    cases item.kept <;> rfl
end

end SqlCompose
