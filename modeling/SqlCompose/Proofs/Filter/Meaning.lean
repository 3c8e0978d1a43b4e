import Mathlib
import SqlCompose.Proofs.Filter.Clause
import SqlCompose.Proofs.Filter.Membership

/-!
# The meaning of empty lists in a filter

A negated list without members is not written, so a filter means what its condition says only if the
condition survives its loss.
-/

namespace SqlCompose

open Fragment Formula

/-! ### What a statement filters by -/

namespace Builder

variable {b : Builder} {s : Statement} {c : Condition} {out : Built}

end Builder

end SqlCompose
