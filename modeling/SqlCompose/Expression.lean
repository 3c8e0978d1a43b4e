import SqlCompose.Params

/-!
# Expressions

A piece of a statement that is taken as it stands, with the parameters it mentions. Nothing in it is
quoted or changed.
-/

namespace SqlCompose

/-- A verbatim piece of a statement and its parameters. -/
structure Expression where
  sql : String
  params : Params
  deriving DecidableEq

namespace Expression

def ofSql (sql : String) : Expression := ⟨sql, ∅⟩

def bind (e : Expression) (name : String) (value : Value) : Expression :=
  { e with params := e.params.insert name value }

end Expression

end SqlCompose
