import Mathlib
import SqlCompose.Proofs.Filter.Kept
import SqlCompose.Proofs.Fragment.Trim
import SqlCompose.Proofs.Reading.Fragment
import SqlCompose.Proofs.Woven.Query

/-!
# The WHERE clause of a statement

A statement with a filter is the text before its WHERE clause, the clause, and the text after it. It
is written as if its filter were what is left of it without the negated lists that have no members,
so it has no WHERE clause if nothing is left.
-/

namespace SqlCompose

open Fragment

namespace Statement

def beforeFilter (d : Dialect) (schema : Option SchemaRegistry) : Statement → Fragment
  | .select q =>
    .supply q.params :: ((if !q.unions.isEmpty && d.parenthesizesUnion then [.text "("] else []) ++
      joinNonBlank " " ((q.clauses d).take 3))
  | .update table columns _ =>
    if columns.isEmpty then [.refusal (.validation "update needs at least one column")]
    else
      .text ("UPDATE " ++ d.quoteTable table ++ " SET ") ::
        join ", " (columns.map fun (column, operand) =>
          .text (d.quoteColumn column ++ "=") :: assigned d schema table column operand)
  | .delete table _ => [.text ("DELETE FROM " ++ d.quoteTable table)]
  | s => s.fragment d schema

def afterFilter (d : Dialect) : Statement → Fragment
  | .select q =>
    joinFrom " " true ((q.clauses d).drop 4) ++
      (if q.unions.isEmpty then []
        else (if d.parenthesizesUnion then [.text ")"] else []) ++
          .text " " :: join " " (unionFragments d q.unions))
  | _ => []

/-- A statement around its WHERE clause. -/
def around (d : Dialect) (schema : Option SchemaRegistry) (s : Statement)
    (filter : Option Condition) : Fragment :=
  s.beforeFilter d schema ++ (whereClause d filter ++ s.afterFilter d)

end Statement

namespace Statement

variable {d : Dialect} {schema : Option SchemaRegistry} {s : Statement} {filter : Option Condition}

end Statement

namespace Builder

variable {b : Builder} {s : Statement} {filter : Option Condition} {out : Built}

end Builder

end SqlCompose
