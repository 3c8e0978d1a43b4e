import SqlCompose.Binding

/-!
# Written statements

The text of a statement and the parameters it needs, if it needs any.
-/

namespace SqlCompose

/-- A written statement. -/
structure Built where
  sql : String
  /-- Never an empty map. -/
  params : Option Params
  deriving DecidableEq

namespace Built

def of (sql : String) (params : Params) : Built :=
  ⟨sql, if params.isEmpty then none else some params⟩

def allParams (b : Built) : Params := b.params.getD ∅

/-- Write a fragment as a statement in which the given names are reserved. -/
def ofFragment (d : Dialect) (inline : Bool) (reserved : List String) (f : Fragment) :
    Outcome Built :=
  let (text, binding) := ((Binding.start d inline).reserve reserved).write f
  text.map fun sql => .of sql binding.params

end Built

end SqlCompose
