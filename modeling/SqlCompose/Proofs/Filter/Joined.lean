import Mathlib
import SqlCompose.Proofs.Filter.Silent
import SqlCompose.Proofs.Reading.Meaning

/-!
# Conditions joined one by one

A further condition that has to hold too is taken into a conjunction that is there already, and one
that may hold instead into a disjunction; else a new group is made of the two. Either way the text
means the connective of the old condition and the new one. So conditions that are joined one after
the other mean what the left fold of their formulas means.
-/

namespace SqlCompose

open Fragment Formula

/-! ### Connectives -/

namespace Truth

def connect (conjunction : Bool) (u v : Truth) : Truth := if conjunction then u.and v else u.or v

/-- The conjunction, or the disjunction, of some truth values. -/
def connectAll (conjunction : Bool) (vs : List Truth) : Truth :=
  if conjunction then all vs else any vs

lemma connectAll_singleton (conjunction : Bool) (v : Truth) : connectAll conjunction [v] = v := by
  cases conjunction <;> simp [connectAll]

/-- A further truth value is connected to that of all before it. -/
lemma connectAll_concat (conjunction : Bool) (vs : List Truth) (v : Truth) :
    connectAll conjunction (vs ++ [v]) = connect conjunction (connectAll conjunction vs) v := by
  cases conjunction <;> simp [connectAll, connect, all_append, any_append]

end Truth

def Formula.connect (conjunction : Bool) (f g : Formula) : Formula :=
  if conjunction then f.and g else f.or g

lemma Formula.value_connect (τ : List Token → Truth) (conjunction : Bool) (f g : Formula) :
    (f.connect conjunction g).value τ = (f.value τ).connect conjunction (g.value τ) := by
  cases conjunction <;> rfl

/-! ### Groups -/

def Condition.groupOf (conjunction : Bool) (items : List Condition) : Condition :=
  if conjunction then .and items else .or items

/-- What a condition is the conjunction, or the disjunction, of; else it is this alone. -/
def Condition.members (conjunction : Bool) : Condition → List Condition
  | .and items => if conjunction then items else [.and items]
  | .or items => if conjunction then [.or items] else items
  | c => [c]

/-- A condition and a further one, which has to hold too or may hold instead. -/
def Condition.joinWith (conjunction : Bool) (c other : Condition) : Condition :=
  if conjunction then c.andWith other else c.orWith other

/-- What is bound after some conditions that are written one after the other. -/
def Binding.afterItems (b : Binding) : List Condition → Binding
  | [] => b
  | item :: items => (b.after (item.fragment b.dialect)).afterItems items

/-- What some conditions mean that are written one after the other. -/
def Binding.values (τ : List Token → Truth) (b : Binding) : List Condition → List Truth
  | [] => []
  | item :: items => (item.spelling b).value τ :: (b.after (item.fragment b.dialect)).values τ items

variable {d : Dialect} {b : Binding} {conjunction : Bool} {c other : Condition}
  {items : List Condition} {τ : List Token → Truth}

/-- Conditions written after some others start from what these have bound. -/
lemma Binding.values_append (items more : List Condition) :
    b.values τ (items ++ more) = b.values τ items ++ (b.afterItems items).values τ more := by
  induction items generalizing b with
  | nil => rfl
  | cons item items ih => rw [List.cons_append, values, values, ih, afterItems, List.cons_append]

lemma Binding.afterItems_append (items more : List Condition) :
    b.afterItems (items ++ more) = (b.afterItems items).afterItems more := by
  induction items generalizing b with
  | nil => rfl
  | cons item items ih => rw [List.cons_append, afterItems, afterItems, ih]

/-- Parentheses change nothing of what the members of a group mean. -/
lemma map_value_memberSpellings (alone : Bool) :
    (memberSpellings conjunction alone b items).map (Spelling.value τ) = b.values τ items := by
  induction items generalizing b with
  | nil => rfl
  | cons item items ih =>
    rw [memberSpellings, List.map_cons, ih, Binding.values]
    congr 1
    split <;> rfl

namespace Condition

/-- A group is written as its members under the connective. -/
lemma fragment_groupOf : (groupOf conjunction items).fragment d =
    group conjunction (memberFragments d conjunction items) := by
  cases conjunction <;> simp [groupOf, Condition.fragment]

lemma effects_groupOf : effects ((groupOf conjunction items).fragment d) =
    items.flatMap fun item => effects (item.fragment d) := by
  rw [fragment_groupOf, effects_group, memberFragments_eq_map, List.flatMap_map]

lemma error?_groupOf : error? ((groupOf conjunction items).fragment d) = none ↔
    ∀ item ∈ items, error? (item.fragment d) = none := by
  rw [fragment_groupOf, error?_group, memberFragments_eq_map, List.forall_mem_map]

lemma isReadable_groupOf : (groupOf conjunction items).IsReadable d ↔
    items ≠ [] ∧ ∀ item ∈ items, item.IsReadable d := by
  rw [← areReadable_iff]
  cases conjunction <;> simp [groupOf, Condition.IsReadable]

/-- A conjunction branches if it has several members that all branch. -/
lemma isBranching_groupOf : (groupOf conjunction items).IsBranching ↔
    (conjunction = true → 1 < items.length) ∧ ∀ item ∈ items, item.IsBranching := by
  rw [← areBranching_iff]
  cases conjunction <;> simp [groupOf, Condition.IsBranching]

/-- A group means the connective of its members. -/
lemma value_groupOf (hne : items ≠ []) : ((groupOf conjunction items).spelling b).value τ =
    .connectAll conjunction (b.values τ items) := by
  cases conjunction with
  | true =>
    have hspellings : memberSpellings true (decide (items.length ≤ 1)) b items ≠ [] := by
      apply List.ne_nil_of_length_pos
      rw [length_memberSpellings]
      exact List.length_pos_of_ne_nil hne
    rw [groupOf, if_pos rfl, Condition.spelling, Spelling.value_join_and hspellings,
      map_value_memberSpellings]
    rfl
  | false =>
    rw [groupOf, if_neg (by decide), Condition.spelling, Spelling.value_join_or,
      map_value_memberSpellings]
    rfl

/-- A group binds what its members bind one after the other. -/
lemma after_groupOf (h : ∀ item ∈ items, error? (item.fragment b.dialect) = none) :
    b.after ((groupOf conjunction items).fragment b.dialect) = b.afterItems items := by
  rw [← Binding.after_effects, effects_groupOf]
  induction items generalizing b with
  | nil => rfl
  | cons item items ih =>
    rw [List.forall_mem_cons] at h
    have hdialect : (b.after (item.fragment b.dialect)).dialect = b.dialect := Binding.after_dialect
    have hrest := ih (b := b.after (item.fragment b.dialect)) (by rw [hdialect]; exact h.2)
    rw [hdialect] at hrest
    rw [List.flatMap_cons, Binding.after_append ((error?_effects _).mpr h.1),
      Binding.after_effects, hrest, Binding.afterItems]

/-! ### Joining two conditions -/

/-- A condition is a group of its members, or its only member. -/
lemma members_cases (conjunction : Bool) (c : Condition) :
    c = groupOf conjunction (c.members conjunction) ∨ c.members conjunction = [c] := by
  cases conjunction <;> cases c <;> simp [groupOf, members]

/-- Joining to a condition that says something makes a group, or extends one. -/
lemma joinWith_eq (hc : c.isEmpty = false) (hother : other.isEmpty = false) :
    c.joinWith conjunction other = groupOf conjunction (c.members conjunction ++ [other]) := by
  cases conjunction <;> cases c <;> simp_all [joinWith, andWith, orWith, groupOf, members]

/-- A condition that can be read has a text, or refuses something. -/
lemma IsReadable.isBlank_eq_false (h : c.IsReadable d) :
    Fragment.isBlank (c.fragment d) = false := by
  by_contra hblank
  rw [Bool.not_eq_false] at hblank
  have hspelled := c.isSpelled (b := .start d false) h (error?_eq_none_of_isBlank hblank)
  have htext : Fragment.isBlank (c.fragment d) = false := hspelled.reads.isBlank_eq_false
  rw [hblank] at htext
  cases htext

lemma IsReadable.isEmpty_eq_false (h : c.IsReadable d) : c.isEmpty = false := by
  by_contra hempty
  rw [Bool.not_eq_false, c.isEmpty_eq_all_leaves, List.all_eq_true] at hempty
  have hblank : Fragment.isBlank (c.fragment d) = true := by
    rw [c.isBlank_fragment, List.all_eq_true]
    intro leaf hleaf
    rw [isSilent, hempty leaf hleaf, Bool.true_or]
  rw [h.isBlank_eq_false] at hblank
  cases hblank

/-- A condition that can be read, and in which every conjunction has several members. -/
structure IsJoinable (d : Dialect) (c : Condition) : Prop where
  readable : c.IsReadable d
  branching : c.IsBranching

namespace IsJoinable

/-- The members of a condition that can be joined can be joined, too. -/
lemma members (h : c.IsJoinable d) (conjunction : Bool) :
    c.members conjunction ≠ [] ∧ ∀ item ∈ c.members conjunction, item.IsJoinable d := by
  rcases members_cases conjunction c with hgroup | halone
  · obtain ⟨hreadable, hbranching⟩ := h
    rw [hgroup, isReadable_groupOf] at hreadable
    rw [hgroup, isBranching_groupOf] at hbranching
    exact ⟨hreadable.1, fun item hitem => ⟨hreadable.2 item hitem, hbranching.2 item hitem⟩⟩
  · rw [halone]
    simpa using h

lemma joinWith_eq (hc : c.IsJoinable d) (hother : other.IsJoinable d) (conjunction : Bool) :
    c.joinWith conjunction other = groupOf conjunction (c.members conjunction ++ [other]) :=
  Condition.joinWith_eq hc.readable.isEmpty_eq_false hother.readable.isEmpty_eq_false

lemma joinWith (hc : c.IsJoinable d) (hother : other.IsJoinable d) (conjunction : Bool) :
    (c.joinWith conjunction other).IsJoinable d := by
  obtain ⟨hne, hmembers⟩ := hc.members conjunction
  have hall : ∀ item ∈ c.members conjunction ++ [other], item.IsJoinable d := by
    rw [List.forall_mem_append]
    exact ⟨hmembers, by simpa using hother⟩
  have hlength : 1 < (c.members conjunction ++ [other]).length := by
    have hpos := List.length_pos_of_ne_nil hne
    simpa using hpos
  rw [hc.joinWith_eq hother]
  exact ⟨isReadable_groupOf.mpr ⟨by simp, fun item hitem => (hall item hitem).readable⟩,
    isBranching_groupOf.mpr ⟨fun _ => hlength, fun item hitem => (hall item hitem).branching⟩⟩

/-- Joining refuses what one of the two conditions refuses. -/
lemma error?_joinWith (hc : c.IsJoinable d) (hother : other.IsJoinable d) (conjunction : Bool) :
    error? ((c.joinWith conjunction other).fragment d) = none ↔
      error? (c.fragment d) = none ∧ error? (other.fragment d) = none := by
  have hmembers : (∀ item ∈ c.members conjunction, error? (item.fragment d) = none) ↔
      error? (c.fragment d) = none := by
    rcases members_cases conjunction c with hgroup | halone
    · conv_rhs => rw [hgroup, error?_groupOf]
    · rw [halone, List.forall_mem_singleton]
  rw [hc.joinWith_eq hother, error?_groupOf, List.forall_mem_append, hmembers,
    List.forall_mem_singleton]

lemma after_members (herror : error? (c.fragment b.dialect) = none) (conjunction : Bool) :
    b.after (c.fragment b.dialect) = b.afterItems (c.members conjunction) := by
  rcases members_cases conjunction c with hgroup | halone
  · conv_lhs => rw [hgroup]
    rw [hgroup, error?_groupOf] at herror
    exact after_groupOf herror
  · rw [halone]
    rfl

/-- A condition means the connective of what its members mean. -/
lemma value_members (hc : c.IsJoinable d) (conjunction : Bool) : (c.spelling b).value τ =
    .connectAll conjunction (b.values τ (c.members conjunction)) := by
  rcases members_cases conjunction c with hgroup | halone
  · conv_lhs => rw [hgroup]
    exact value_groupOf (hc.members conjunction).1
  · rw [halone]
    exact (Truth.connectAll_singleton conjunction _).symm

/-- A condition and a further one are written one after the other. -/
lemma after_joinWith (hc : c.IsJoinable b.dialect) (hother : other.IsJoinable b.dialect)
    (conjunction : Bool)
    (herror : error? ((c.joinWith conjunction other).fragment b.dialect) = none) :
    b.after ((c.joinWith conjunction other).fragment b.dialect) =
      (b.after (c.fragment b.dialect)).after (other.fragment b.dialect) := by
  have hcerror := ((hc.error?_joinWith hother conjunction).mp herror).1
  rw [hc.joinWith_eq hother, error?_groupOf] at herror
  rw [hc.joinWith_eq hother, after_groupOf herror, Binding.afterItems_append,
    ← after_members hcerror conjunction, Binding.afterItems, Binding.after_dialect]
  rfl

/-- A condition and a further one mean the connective of the two. -/
lemma value_joinWith (hc : c.IsJoinable b.dialect) (hother : other.IsJoinable b.dialect)
    (conjunction : Bool) (herror : error? (c.fragment b.dialect) = none) :
    ((c.joinWith conjunction other).spelling b).value τ =
      ((c.spelling b).value τ).connect conjunction
        ((other.spelling (b.after (c.fragment b.dialect))).value τ) := by
  rw [hc.joinWith_eq hother, value_groupOf (by simp), Binding.values_append,
    ← after_members herror conjunction, Binding.values, Binding.values, Truth.connectAll_concat,
    ← hc.value_members conjunction]

end IsJoinable

end Condition

/-! ### Runs of conditions -/

/-- A further condition for a filter, which has to hold too or may hold instead. -/
structure FilterCall where
  conjunction : Bool
  condition : Condition

/-- A condition with that of a call. -/
def FilterCall.addTo (c : Condition) (call : FilterCall) : Condition :=
  c.joinWith call.conjunction call.condition

/-- The formula that a condition is read as on its own, where it is written. -/
def Binding.read? (b : Binding) (c : Condition) : Option Formula :=
  b.dialect.read? (b.textOf (c.fragment b.dialect))

/-- The left fold of a formula and the formulas of the conditions that are written after it, each
read on its own. -/
def Binding.leftFold? (b : Binding) (f : Formula) : List FilterCall → Option Formula
  | [] => some f
  | call :: calls => do
    let g ← b.read? call.condition
    (b.after (call.condition.fragment b.dialect)).leftFold? (f.connect call.conjunction g) calls

/-- The left fold of the formulas of some conditions that are written one after the other. -/
def Binding.joined? (b : Binding) (first : Condition) (calls : List FilterCall) :
    Option Formula := do
  let f ← b.read? first
  (b.after (first.fragment b.dialect)).leftFold? f calls

namespace Condition

/-- A condition is read as a formula that means what is meant. -/
lemma IsJoinable.exists_read? (hc : c.IsJoinable b.dialect)
    (herror : error? (c.fragment b.dialect) = none) :
    ∃ f, b.read? c = some f ∧ ∀ τ, f.value τ = (c.spelling b).value τ := by
  obtain ⟨f, hf, hvalue⟩ := (c.isSpelled hc.readable herror).exists_read?
  exact ⟨f, hf, hvalue (c.isGrouped_of_isBranching b.dialect hc.branching)⟩

/-- A filter stays one that can be joined, whatever calls extend it. -/
lemma IsJoinable.foldl_addTo {calls : List FilterCall} (hc : c.IsJoinable d)
    (hcalls : ∀ call ∈ calls, call.condition.IsJoinable d) :
    (calls.foldl FilterCall.addTo c).IsJoinable d := by
  induction calls generalizing c with
  | nil => exact hc
  | cons call calls ih =>
    rw [List.forall_mem_cons] at hcalls
    exact ih (hc.joinWith hcalls.1 call.conjunction) hcalls.2

lemma IsJoinable.error?_foldl_addTo {calls : List FilterCall} (hc : c.IsJoinable d)
    (hcalls : ∀ call ∈ calls, call.condition.IsJoinable d)
    (herror : error? ((calls.foldl FilterCall.addTo c).fragment d) = none) :
    error? (c.fragment d) = none := by
  induction calls generalizing c with
  | nil => exact herror
  | cons call calls ih =>
    rw [List.forall_mem_cons] at hcalls
    have hjoined := ih (hc.joinWith hcalls.1 call.conjunction) hcalls.2 herror
    exact ((hc.error?_joinWith hcalls.1 call.conjunction).mp hjoined).1

/-- A condition with those of a run of calls means the left fold of their formulas. -/
lemma IsJoinable.exists_leftFold? {calls : List FilterCall} {f : Formula}
    (hc : c.IsJoinable b.dialect) (hcalls : ∀ call ∈ calls, call.condition.IsJoinable b.dialect)
    (herror : error? ((calls.foldl FilterCall.addTo c).fragment b.dialect) = none)
    (hf : ∀ τ, f.value τ = (c.spelling b).value τ) :
    ∃ g, (b.after (c.fragment b.dialect)).leftFold? f calls = some g ∧
      ∀ τ, g.value τ = ((calls.foldl FilterCall.addTo c).spelling b).value τ := by
  induction calls generalizing c f with
  | nil => exact ⟨f, rfl, hf⟩
  | cons call calls ih =>
    rw [List.forall_mem_cons] at hcalls
    obtain ⟨hcall, hcalls⟩ := hcalls
    have hjoined := hc.joinWith hcall call.conjunction
    have herror' := hjoined.error?_foldl_addTo hcalls herror
    obtain ⟨hcerror, hcallerror⟩ := (hc.error?_joinWith hcall call.conjunction).mp herror'
    let b' := b.after (c.fragment b.dialect)
    have hdialect : b'.dialect = b.dialect := Binding.after_dialect
    obtain ⟨g, hg, hvalue⟩ := IsJoinable.exists_read? (b := b') (c := call.condition)
      (by rwa [hdialect]) (by rwa [hdialect])
    have hstep (τ : List Token → Truth) : (f.connect call.conjunction g).value τ =
        ((c.joinWith call.conjunction call.condition).spelling b).value τ := by
      rw [Formula.value_connect, hf, hvalue, hc.value_joinWith hcall call.conjunction hcerror]
    obtain ⟨h, hfold, hmeans⟩ := ih hjoined hcalls herror hstep
    refine ⟨h, ?_, hmeans⟩
    rw [hc.after_joinWith hcall call.conjunction herror'] at hfold
    rw [Binding.leftFold?, hg, Option.bind_eq_bind, Option.bind_some, hdialect]
    exact hfold

end Condition

end SqlCompose
