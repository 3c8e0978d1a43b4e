import SqlCompose.Fragment.Query
import SqlCompose.Query.Supplied
import SqlCompose.Schema.Table
import SqlCompose.Built

/-!
# Statements

The statements that can be written, each as a fragment: queries, and the statements that change rows
and tables. Values that go into columns of a known table are cast to the types of these columns.

A `Builder` writes statements for one dialect. It keeps nothing between two statements, so writing a
statement twice gives the same text and the same parameters.
-/

namespace SqlCompose

/-- A statement. -/
inductive Statement
  | select (q : Query)
  | insert (table : String) (columns : List (String × Operand))
  | insertFrom (table : String) (columns : List String) (q : Query)
  | batchInsert (table : String) (columns : List String) (rows : List (List Value))
  | update (table : String) (columns : List (String × Operand)) (filter : Option Condition)
  | delete (table : String) (filter : Option Condition)
  | truncateTable (table : String)
  | dropTable (table : String)

namespace Fragment

/-- Cast a value to the type of its column, if the column is known. -/
def castFor (schema : Option SchemaRegistry) (table column : String) (v : Value) : Value :=
  match (schema.bind (·.tableSchema? table)).bind (·.column? column) with
  | some c => c.typecast v
  | none => v

/-- What a column is set to. -/
def assigned (d : Dialect) (schema : Option SchemaRegistry) (table column : String) :
    Operand → Fragment
  | .value v => [.slot column (castFor schema table column v)]
  | .expr e => expr e
  | .query q => bracket (q.fragment d)
  | .list _ => [.refusal (.validation ("column " ++ column ++ " cannot take a list of values"))]

/-- A list of names in parentheses. -/
def nameList (d : Dialect) (columns : List String) : String :=
  "(" ++ Text.join ", " (columns.map d.quoteColumn) ++ ")"

/-- The WHERE clause of a statement that changes rows. -/
def whereClause (d : Dialect) (filter : Option Condition) : Fragment :=
  let f := clause "WHERE" (filterFragment d filter)
  if f.isBlank then f else .text " " :: f

/-- The first row whose width is not `width`, with its number. -/
def findMisfit (width n : Nat) : List (List Value) → Option (Nat × List Value)
  | [] => none
  | row :: rows => if row.length = width then findMisfit width (n + 1) rows else some (n, row)

/-- The rows of a batch, each in parentheses. -/
def batchRows (schema : Option SchemaRegistry) (table : String) (columns : List String)
    (rows : List (List Value)) : Fragment :=
  join ", " (rows.map fun row =>
    bracket (join ", " ((columns.zip row).map fun (column, v) =>
      [.slot column (castFor schema table column v)])))

end Fragment

namespace Statement

open Fragment

def fragment (d : Dialect) (schema : Option SchemaRegistry) : Statement → Fragment
  | .select q => q.fragment d
  | .insert table columns =>
    let quoted := d.quoteTable table
    if columns.isEmpty then [.text (d.defaultValuesInsert quoted)]
    else
      let names := nameList d (columns.map Prod.fst)
      .text ("INSERT INTO " ++ quoted ++ " " ++ names ++ " VALUES ") ::
        bracket (join ", " (columns.map fun (column, operand) =>
          assigned d schema table column operand))
  | .insertFrom table columns q =>
    let names := if columns.isEmpty then "" else nameList d columns ++ " "
    .text ("INSERT INTO " ++ d.quoteTable table ++ " " ++ names) :: q.fragment d
  | .batchInsert table columns rows =>
    if columns.isEmpty then [.refusal (.validation "batch insert needs at least one column")]
    else if rows.isEmpty then [.refusal (.validation "batch insert needs at least one row")]
    else match findMisfit columns.length 0 rows with
      | some (n, row) => [.refusal (.batchInsertMismatch n columns.length row.length)]
      | none =>
        .text ("INSERT INTO " ++ d.quoteTable table ++ " " ++ nameList d columns ++ " VALUES ") ::
          batchRows schema table columns rows
  | .update table columns filter =>
    if columns.isEmpty then [.refusal (.validation "update needs at least one column")]
    else
      .text ("UPDATE " ++ d.quoteTable table ++ " SET ") ::
        (join ", " (columns.map fun (column, operand) =>
          .text (d.quoteColumn column ++ "=") :: assigned d schema table column operand) ++
          whereClause d filter)
  | .delete table filter =>
    .text ("DELETE FROM " ++ d.quoteTable table) :: whereClause d filter
  | .truncateTable table => [.text (d.truncateTable (d.quoteTable table))]
  | .dropTable table => [.text ("DROP TABLE " ++ d.quoteTable table)]

/-- The names of the parameters that come with a statement. -/
def suppliedNames : Statement → List String
  | .select q => q.suppliedNames
  | .insert _ columns => namesOfPairs columns
  | .insertFrom _ _ q => q.suppliedNames
  | .update _ columns filter => namesOfPairs columns ++ namesOfFilter filter
  | .delete _ filter => namesOfFilter filter
  | _ => []

end Statement

/-- Writes statements for one dialect. -/
structure Builder where
  dialect : Dialect
  /-- What values that go into columns are cast by. -/
  schema : Option SchemaRegistry
  /-- Whether values stand in the text. -/
  inlineValues : Bool

namespace Builder

def build (b : Builder) (s : Statement) : Outcome Built :=
  Built.ofFragment b.dialect b.inlineValues s.suppliedNames (s.fragment b.dialect b.schema)

/-- Write a condition on its own. -/
def condition (b : Builder) (c : Condition) : Outcome Built :=
  Built.ofFragment b.dialect b.inlineValues c.suppliedNames (c.fragment b.dialect)

end Builder

end SqlCompose
