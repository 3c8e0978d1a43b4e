import SqlCompose.Query.Fluent
import SqlCompose.Fragment.Lookup

/-!
# Queries and conditions as fragments

The statement of a query, and the text of a condition, in a dialect. A condition inside a group gets
parentheses where the operator of the group binds tighter than its own, or where nobody knows what
it holds; a group of which only one member has a text is that member.
-/

namespace SqlCompose

namespace Fragment

/-- The keyword DISTINCT after SELECT. -/
def distinct (d : Dialect) : Distinct → Fragment
  | .no => []
  | .all => [.text " DISTINCT"]
  | .on columns =>
    if d = .pgsql then
      [.text (" DISTINCT ON (" ++ Text.join ", " (columns.map d.quoteColumn) ++ ")")]
    else [.refusal (.notSupported d.name "DISTINCT ON")]

/-- A refusal of the joins that a dialect does not have. -/
def checkJoin (d : Dialect) (kind : JoinKind) : Fragment :=
  match d, kind with
  | .sqlite, .right => [.refusal (.notSupported d.name "RIGHT JOIN")]
  | .sqlite, .full | .mysql, .full | .cubrid, .full =>
    [.refusal (.notSupported d.name "FULL JOIN")]
  | _, _ => []

def expr (e : Expression) : Fragment := [.supply e.params, .text e.sql]

/-- An entry of an ordering; directions are always written. -/
def orderItem (d : Dialect) : OrderItem → Fragment
  | .column name direction => [.text (d.quoteColumn name ++ " " ++ direction.sql)]
  | .expr e => expr e
  | .random => [.text d.randomFunction]

def orderBy (d : Dialect) (items : List OrderItem) : Fragment :=
  if items.isEmpty then [] else after "ORDER BY" (join ", " (items.map (orderItem d)))

/-- A condition after a keyword, unless it has no text. -/
def clause (keyword : String) (f : Fragment) : Fragment := if f.isBlank then f else after keyword f

/-- A list after a keyword, unless it is empty. -/
def listClause (keyword : String) (fs : List Fragment) : Fragment :=
  if fs.isEmpty then [] else after keyword (join ", " fs)

/-- Whether a condition gets parentheses inside a group with other members. -/
def needsBrackets (conjunction : Bool) : Condition → Bool
  | .or _ => conjunction
  | .and _ => !conjunction
  | .hash pairs => !conjunction && decide (1 < pairs.length)
  | .raw .. | .expr _ => true
  | _ => false

/-- A conjunction or a disjunction. Each member says whether it needs parentheses beside others. -/
def group (conjunction : Bool) (members : List (Bool × Fragment)) : Fragment :=
  let alone := (members.filter fun (_, f) => !f.isBlank).length ≤ 1
  joinNonBlank (if conjunction then " AND " else " OR ")
    (members.map fun (brackets, f) =>
      if brackets && !alone && !f.isBlank then bracket f else f)

end Fragment

open Fragment

mutual
def Condition.fragment (d : Dialect) : Condition → Fragment
  | .hash pairs => joinNonBlank " AND " (hashFragments d pairs)
  | .and items => group true (memberFragments d true items)
  | .or items => group false (memberFragments d false items)
  | .not item =>
    let f := item.fragment d
    if f.isBlank then f else .text "NOT " :: bracket f
  | .between column low high negated =>
    [.text (d.quoteColumn column ++ if negated then " NOT BETWEEN " else " BETWEEN "),
      .slot column low, .text " AND ", .slot column high]
  | .within columns (.query q) negated =>
    if columns.isEmpty then
      [.refusal (.malformedCondition "IN requires at least one column")]
    else .text (columnTuple d columns ++ if negated then " NOT IN " else " IN ") ::
      bracket (q.fragment d)
  | .within columns (.list values) negated =>
    match columns with
    | [] => [.refusal (.malformedCondition "IN requires at least one column")]
    | [column] => inList d column values negated
    | _ =>
      [.refusal (.malformedCondition
        "a multi-column IN needs rows of values, not a flat list")]
  | .within columns (.rows rows) negated =>
    if columns.isEmpty then
      [.refusal (.malformedCondition "IN requires at least one column")]
    else inRows d columns rows negated
  | .like op column values rawPattern => Fragment.like d op column values rawPattern
  | .exist q negated =>
    .text (if negated then "NOT EXISTS " else "EXISTS ") :: bracket (q.fragment d)
  | .compare column op (.value v) =>
    let left := d.quoteColumn column ++ " " ++ op.token ++ " "
    if v.isNull then [.text (left ++ "NULL")] else [.text left, .slot column v]
  | .compare column op (.query q) =>
    .text (d.quoteColumn column ++ " " ++ op.token ++ " ") :: bracket (q.fragment d)
  | .compare column op (.expr e) =>
    .text (d.quoteColumn column ++ " " ++ op.token ++ " ") :: Fragment.expr e
  | .compare column op (.list _) =>
    [.refusal (.malformedCondition
      ("operator '" ++ op.token ++ "' expects a single value for " ++ column))]
  | .raw sql params => [.supply params, .text (Text.trim sql)]
  | .expr e => [.supply e.params, .text (Text.trim e.sql)]
  | .lookup field .within (.query q) =>
    .text (d.quoteColumn field ++ " IN ") :: bracket (q.fragment d)
  | .lookup field lookup operand => lookup.fragment d (d.quoteColumn field) operand

def hashFragments (d : Dialect) : List (String × Operand) → List Fragment
  | [] => []
  | (column, .value v) :: pairs =>
    (if v.isNull then [.text (d.quoteColumn column ++ " IS NULL")]
      else [.text (d.quoteColumn column ++ "="), .slot column v]) :: hashFragments d pairs
  | (column, .list values) :: pairs => inList d column values false :: hashFragments d pairs
  | (column, .query q) :: pairs =>
    (.text (d.quoteColumn column ++ " IN ") :: bracket (q.fragment d)) :: hashFragments d pairs
  | (column, .expr e) :: pairs =>
    (.text (d.quoteColumn column ++ "=") :: Fragment.expr e) :: hashFragments d pairs

/-- The members of a group, each with its need of parentheses. -/
def memberFragments (d : Dialect) (conjunction : Bool) : List Condition → List (Bool × Fragment)
  | [] => []
  | item :: items =>
    (needsBrackets conjunction item, item.fragment d) :: memberFragments d conjunction items

def filterFragment (d : Dialect) : Option Condition → Fragment
  | none => []
  | some c => c.fragment d

def Selectable.fragment (d : Dialect) : Selectable → Fragment
  | .column name => [.text (d.quoteColumn name)]
  | .expr e => Fragment.expr e
  | .query q => bracket (q.fragment d)

def groupingFragments (d : Dialect) : List Selectable → List Fragment
  | [] => []
  | item :: items => item.fragment d :: groupingFragments d items

def selectFragments (d : Dialect) : List SelectItem → List Fragment
  | [] => []
  | ⟨item, label⟩ :: items =>
    (match label with
      | some label => item.fragment d ++ [.text (" AS " ++ d.quoteColumn label)]
      | none => item.fragment d) :: selectFragments d items

def TableSource.fragment (d : Dialect) : TableSource → Fragment
  | .table name => [.text (d.quoteTable name)]
  | .query q => bracket (q.fragment d)
  | .expr e => Fragment.expr e

def TableRef.fragment (d : Dialect) : TableRef → Fragment
  | ⟨source, some label⟩ => source.fragment d ++ [.text (" " ++ d.quoteTable label)]
  | ⟨source, none⟩ => source.fragment d

def tableFragments (d : Dialect) : List TableRef → List Fragment
  | [] => []
  | table :: tables => table.fragment d :: tableFragments d tables

def joinFragments (d : Dialect) : List Join → List Fragment
  | [] => []
  | ⟨kind, table, on⟩ :: joins =>
    (checkJoin d kind ++ .text (kind.sql ++ " ") :: table.fragment d ++
      (let condition := filterFragment d on
        if condition.isBlank then condition else .text " ON " :: condition)) ::
      joinFragments d joins

def unionFragments (d : Dialect) : List UnionMember → List Fragment
  | [] => []
  | ⟨q, all⟩ :: unions =>
    after (if all then "UNION ALL" else "UNION")
      (if d.parenthesizesUnion then bracket (q.fragment d) else q.fragment d) ::
      unionFragments d unions

def Query.fragment (d : Dialect) : Query → Fragment
  | ⟨select, selectOption, distinct, tables, joins, filter, groupBy, having, orderBy, unions,
      limit, offset, _, params⟩ =>
    let option := match selectOption with
      | some option => if option.isEmpty then [] else [Piece.text (" " ++ option)]
      | none => []
    let items : Fragment :=
      if select.isEmpty then [.text " *"]
      else .text " " :: Fragment.join ", " (selectFragments d select)
    let simple := joinNonBlank " " [
      .text "SELECT" :: Fragment.distinct d distinct ++ option ++ items,
      listClause "FROM" (tableFragments d tables),
      Fragment.join " " (joinFragments d joins),
      clause "WHERE" (filterFragment d filter),
      listClause "GROUP BY" (groupingFragments d groupBy),
      clause "HAVING" (filterFragment d having),
      Fragment.orderBy d orderBy,
      [.text (d.limitClause limit offset)]]
    let whole :=
      if unions.isEmpty then simple
      else (if d.parenthesizesUnion then bracket simple else simple) ++
        .text " " :: Fragment.join " " (unionFragments d unions)
    .supply params :: trimEnd whole
end

end SqlCompose
