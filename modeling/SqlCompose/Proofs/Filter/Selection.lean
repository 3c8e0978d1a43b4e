import Mathlib
import SqlCompose.Proofs.Filter.Connective

/-!
# Selections of rows

A condition selects rows. Some parts of it select everything and leave no trace in a text: what is
kept of the condition is the rest. Whether the rest means the same depends on where such parts
stand. The truth value of a selection is fixed if it is known even where no predicate is.
-/

namespace SqlCompose

open Formula

/-- A condition as what it selects. -/
inductive Selection
  /-- The rows for which a formula is true. -/
  | predicate (f : Formula)
  | nothing
  /-- All rows; no text says so. -/
  | everything
  | not (s : Selection)
  | and (s t : Selection)
  | or (s t : Selection)

namespace Selection

/-- Whether a row is selected that gives the atomic predicates these truth values. -/
def truth (τ : List Token → Truth) : Selection → Truth
  | predicate f => f.value τ
  | nothing => .no
  | everything => .yes
  | not s => (s.truth τ).not
  | and s t => (s.truth τ).and (t.truth τ)
  | or s t => (s.truth τ).or (t.truth τ)

/-- The truth value where no atomic predicate is known. -/
def fixed (s : Selection) : Truth := s.truth fun _ => .unknown

def atoms : Selection → List (List Token)
  | predicate f => f.atoms
  | nothing | everything => []
  | not s => s.atoms
  | and s t | or s t => s.atoms ++ t.atoms

/-- What is left of a selection without the parts that select everything. -/
def kept : Selection → Option Selection
  | predicate f => some (predicate f)
  | nothing => some nothing
  | everything => none
  | not s => s.kept.map not
  | and s t => s.kept.merge and t.kept
  | or s t => s.kept.merge or t.kept

/-- The truth value of a selection that may be missing; a missing one has the value `v`. -/
def truthOr (v : Truth) (τ : List Token → Truth) (s : Option Selection) : Truth :=
  s.elim v (truth τ)

/-- Whether a fixed truth value is that of what is kept; where nothing is kept, every row is
selected. -/
def staysFixed (s : Selection) : Bool :=
  decide (truthOr .yes (fun _ => .unknown) s.kept = s.fixed)

/-- Whether a selection means the same as what is kept of it. A truth value that is fixed has to
stay the same. Otherwise each part of which something is kept has to mean the same; the other parts
change nothing where they stand. -/
def survives : Selection → Bool
  | predicate _ | nothing | everything => true
  | not s => if (not s).fixed = .unknown then s.survives else (not s).staysFixed
  | and s t =>
    if (and s t).fixed = .unknown then
      (s.kept.isNone || s.survives) && (t.kept.isNone || t.survives)
    else (and s t).staysFixed
  | or s t =>
    if (or s t).fixed = .unknown then
      (s.kept.isNone || s.survives) && (t.kept.isNone || t.survives)
    else (or s t).staysFixed

end Selection

namespace Selection

variable {s t k : Selection} {τ : List Token → Truth} {u v : Truth} {o o' : Option Selection}

/-! ### What the two connectives have in common -/

/-- A connective of selections with the one of truth values and its neutral value. -/
structure IsConnective (mk : Selection → Selection → Selection) (op : Truth → Truth → Truth)
    (e : Truth) : Prop where
  neutral : Truth.IsNeutral op e
  truth (s t : Selection) (τ : List Token → Truth) : (mk s t).truth τ = op (s.truth τ) (t.truth τ)
  atoms (s t : Selection) : (mk s t).atoms = s.atoms ++ t.atoms
  kept (s t : Selection) : (mk s t).kept = s.kept.merge mk t.kept
  survives (s t : Selection) : (mk s t).survives =
    if (mk s t).fixed = .unknown then
      (s.kept.isNone || s.survives) && (t.kept.isNone || t.survives)
    else (mk s t).staysFixed

lemma isConnective_and : IsConnective and Truth.and .yes :=
  ⟨Truth.isNeutral_and, fun _ _ _ => rfl, fun _ _ => rfl, fun _ _ => rfl, fun _ _ => rfl⟩

lemma isConnective_or : IsConnective or Truth.or .no :=
  ⟨Truth.isNeutral_or, fun _ _ _ => rfl, fun _ _ => rfl, fun _ _ => rfl, fun _ _ => rfl⟩

variable {mk : Selection → Selection → Selection} {op : Truth → Truth → Truth} {e : Truth}

namespace IsConnective

lemma fixed (h : IsConnective mk op e) (s t : Selection) :
    (mk s t).fixed = op s.fixed t.fixed := h.truth s t _

end IsConnective

-- what selects everything may be left out of a conjunction, but not out of a disjunction
example (ts : List Token) : (and everything (predicate (.atom ts))).survives = true := rfl

example (ts : List Token) : (or everything (predicate (.atom ts))).survives = false := rfl

/-! ### Groups of selections -/

/-- Some selections under one connective. -/
def join (mk : Selection → Selection → Selection) : List Selection → Selection
  | [] => everything
  | [s] => s
  | s :: t :: ss => mk s (join mk (t :: ss))

variable {ss : List Selection}

lemma truth_join (h : IsConnective mk op e) (hne : ss ≠ []) (τ : List Token → Truth) :
    (join mk ss).truth τ = (ss.map (truth τ)).foldr op e := by
  induction ss with
  | nil => exact absurd rfl hne
  | cons s ss ih =>
    cases ss with
    | nil => exact (h.neutral.right _).symm
    | cons t ss =>
      rw [join, h.truth, ih (by simp)]
      rfl

/-- What is left of a group is the group of what is left of its members. -/
lemma kept_join (h : IsConnective mk op e) (hne : ss ≠ []) :
    (join mk ss).kept =
      if (ss.filterMap kept).isEmpty then none else some (join mk (ss.filterMap kept)) := by
  induction ss with
  | nil => exact absurd rfl hne
  | cons s ss ih =>
    have hcons : (s :: ss).filterMap kept = s.kept.toList ++ ss.filterMap kept := by
      rw [List.filterMap_cons]
      cases s.kept <;> rfl
    rw [hcons]
    cases ss with
    | nil =>
      rw [join]
      cases s.kept <;> rfl
    | cons t ss =>
      rw [join, h.kept, ih (by simp)]
      generalize (t :: ss).filterMap kept = ks
      cases s.kept <;> cases ks <;> rfl

end Selection

end SqlCompose
