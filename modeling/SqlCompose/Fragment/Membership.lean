import SqlCompose.Dialect.Quoting
import SqlCompose.Fragment.Basic

/-!
# Membership

Predicates that look for a column, or a tuple of columns, in a list. A null is a member like any
other: it is looked for by a null check. Nothing is a member of the empty list.
-/

namespace SqlCompose.Fragment

/-- The predicate on an empty list: false, or nothing where it is negated. -/
def ofEmptyList (negated : Bool) : Fragment := if negated then [] else [.text "1=0"]

def inList (d : Dialect) (column : String) (values : List Value) (negated : Bool) : Fragment :=
  let quoted := d.quoteColumn column
  let nullCheck : Fragment := [.text (quoted ++ if negated then " IS NOT NULL" else " IS NULL")]
  let withNull (membership : Fragment) : Fragment :=
    if values.any Value.isNull then
      bracket (join (if negated then " AND " else " OR ") [membership, nullCheck])
    else membership
  match values.filter (!·.isNull) with
  | [] => if values.isEmpty then ofEmptyList negated else nullCheck
  | [v] => withNull [.text (quoted ++ if negated then "<>" else "="), .slot column v]
  | vs =>
    withNull (.text (quoted ++ if negated then " NOT IN " else " IN ") ::
      bracket (join ", " (vs.map fun v => [.slot column v])))

/-- The columns as one operand. -/
def columnTuple (d : Dialect) : List String → String
  | [column] => d.quoteColumn column
  | columns => "(" ++ Text.join ", " (columns.map d.quoteColumn) ++ ")"

/-- The predicate that a tuple of columns is one of some rows, by a comparison of tuples. -/
def inRowValues (d : Dialect) (columns : List String) (rows : List (List Value))
    (negated : Bool) : Fragment :=
  let tuples := rows.map fun row =>
    bracket (join ", " ((columns.zip row).map fun (column, v) => [.slot column v]))
  .text (columnTuple d columns ++ if negated then " NOT IN " else " IN ") ::
    bracket (join ", " tuples)

def equalsRow (d : Dialect) (columns : List String) (row : List Value) : Fragment :=
  join " AND " ((columns.zip row).map fun (column, v) =>
    let quoted := d.quoteColumn column
    if v.isNull then [.text (quoted ++ " IS NULL")] else [.text (quoted ++ "="), .slot column v])

/-- The predicate that a tuple of columns is one of some rows, by a comparison of each column. -/
def inRowsExpanded (d : Dialect) (columns : List String) (rows : List (List Value))
    (negated : Bool) : Fragment :=
  let negate (f : Fragment) : Fragment := .text "NOT " :: bracket f
  match rows.map (equalsRow d columns) with
  | [row] => if negated then negate row else row
  | alternatives =>
    let any := join " OR " (alternatives.map bracket)
    if negated then negate any else bracket any

/-- The predicate that a tuple of columns is, or is not, one of some rows. -/
def inRows (d : Dialect) (columns : List String) (rows : List (List Value))
    (negated : Bool) : Fragment :=
  match rows.find? fun row => row.length != columns.length with
  | some row =>
    [.refusal (.malformedCondition ("IN row has " ++ toString row.length ++ " values for " ++
      toString columns.length ++ " columns"))]
  | none =>
    if rows.isEmpty then ofEmptyList negated
    else if d.hasRowValueIn then inRowValues d columns rows negated
    else inRowsExpanded d columns rows negated

end SqlCompose.Fragment
