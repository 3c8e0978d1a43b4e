import SqlCompose.Condition.Basic
import SqlCompose.Query.ListText

/-!
# Describing a query step by step

Each function sets or extends one part of a query and leaves the others as they are.
-/

namespace SqlCompose

/-- Read an entry of the SELECT list: an expression with or without an alias. -/
def SelectItem.ofText (s : String) : SelectItem :=
  match ListText.columnAlias? s.toList with
  | some (expr, label) => ⟨.column (.ofList expr), some (.ofList label)⟩
  | none => ⟨.column s, none⟩

/-- Read a table with or without an alias. A text with a parenthesis has no alias. -/
def TableRef.ofText (s : String) : TableRef :=
  let s := Text.trim s
  let split := if s.toList.contains '(' then none else ListText.tableAlias? s.toList
  match split with
  | some (table, label) => ⟨.table (.ofList table), some (.ofList label)⟩
  | none => ⟨.table s, none⟩

def JoinKind.sql : JoinKind → String
  | .inner => "INNER JOIN"
  | .left => "LEFT JOIN"
  | .right => "RIGHT JOIN"
  | .full => "FULL OUTER JOIN"
  | .cross => "CROSS JOIN"
  | .custom keyword => keyword

def Direction.sql : Direction → String
  | .asc => "ASC"
  | .desc => "DESC"

/-- Order by a column: a column that is there takes the direction, a new one goes to the end. -/
def OrderItem.set (name : String) (direction : Direction) : List OrderItem → List OrderItem
  | [] => [.column name direction]
  | .column other old :: items =>
    if other = name then .column name direction :: items
    else .column other old :: set name direction items
  | item :: items => item :: set name direction items

/-- Add a condition to one that may be missing. -/
def Condition.combine (join : Condition → Condition → Condition) (old : Option Condition)
    (c : Condition) : Option Condition :=
  match old with
  | some existing => some (join existing c)
  | none => some c

namespace Query

/-! ### SELECT -/

def selectText (q : Query) (columns : String) : Query :=
  { q with select := (ListText.parts columns).map .ofText }

def selectColumns (q : Query) (columns : List String) : Query :=
  { q with select := columns.map fun c => .ofText (Text.trim c) }

def addSelect (q : Query) (columns : String) : Query :=
  { q with select := q.select ++ (ListText.parts columns).map .ofText }

def selectExpr (q : Query) (e : Expression) (label : Option String) : Query :=
  { q with select := q.select ++ [⟨.expr e, label⟩] }

/-- Select the result of a query, too. -/
def selectQuery (q other : Query) (label : String) : Query :=
  { q with select := q.select ++ [⟨.query other, some label⟩] }

def withSelectOption (q : Query) (option : String) : Query := { q with selectOption := some option }

def withDistinct (q : Query) (distinct : Bool) : Query :=
  { q with distinct := if distinct then .all else .no }

/-- Keep one row for each combination of some columns. -/
def distinctOn (q : Query) (columns : List String) : Query := { q with distinct := .on columns }

/-! ### FROM and JOIN -/

def fromText (q : Query) (tables : String) : Query :=
  { q with tables := (ListText.parts tables).map .ofText }

def fromTables (q : Query) (tables : List String) : Query :=
  { q with tables := tables.map .ofText }

/-- Take rows from a query, too. -/
def fromQuery (q other : Query) (label : String) : Query :=
  { q with tables := q.tables ++ [⟨.query other, some label⟩] }

/-- Take rows from an expression, too. -/
def fromExpr (q : Query) (e : Expression) (label : Option String) : Query :=
  { q with tables := q.tables ++ [⟨.expr e, label⟩] }

def join (q : Query) (kind : JoinKind) (table : String) (on : Condition) : Query :=
  { q with joins := q.joins ++ [⟨kind, .ofText table, some on⟩] }

/-- Join a table without a condition. -/
def crossJoin (q : Query) (table : String) : Query :=
  { q with joins := q.joins ++ [⟨.cross, .ofText table, none⟩] }

/-- Join a query. -/
def joinQuery (q : Query) (kind : JoinKind) (other : Query) (label : String)
    (on : Condition) : Query :=
  { q with joins := q.joins ++ [⟨kind, ⟨.query other, some label⟩, some on⟩] }

/-! ### WHERE and HAVING -/

def withWhere (q : Query) (c : Condition) : Query := { q with filter := some c }

def andWhere (q : Query) (c : Condition) : Query :=
  { q with filter := Condition.combine .andWith q.filter c }

def orWhere (q : Query) (c : Condition) : Query :=
  { q with filter := Condition.combine .orWith q.filter c }

def withHaving (q : Query) (c : Condition) : Query := { q with having := some c }

def andHaving (q : Query) (c : Condition) : Query :=
  { q with having := Condition.combine .andWith q.having c }

def orHaving (q : Query) (c : Condition) : Query :=
  { q with having := Condition.combine .orWith q.having c }

/-! ### GROUP BY and ORDER BY -/

def groupByText (q : Query) (columns : String) : Query :=
  { q with groupBy := (ListText.parts columns).map .column }

def addGroupBy (q : Query) (columns : String) : Query :=
  { q with groupBy := q.groupBy ++ (ListText.parts columns).map .column }

def groupByExpr (q : Query) (e : Expression) : Query :=
  { q with groupBy := q.groupBy ++ [.expr e] }

def orderByColumn (q : Query) (column : String) (direction : Direction) : Query :=
  { q with orderBy := OrderItem.set (Text.trim column) direction q.orderBy }

/-- Order by a column whose text may end with a direction. -/
def orderByPart (q : Query) (part : String) : Query :=
  match ListText.direction? part.toList with
  | some (column, descending) =>
    q.orderByColumn (.ofList column) (if descending then .desc else .asc)
  | none => q.orderByColumn part .asc

def addOrderBy (q : Query) (text : String) : Query := (ListText.parts text).foldl orderByPart q

/-- Order by the columns of a list alone. -/
def orderByText (q : Query) (text : String) : Query := addOrderBy { q with orderBy := [] } text

def orderByExpr (q : Query) (e : Expression) : Query :=
  { q with orderBy := q.orderBy ++ [.expr e] }

def orderByRandom (q : Query) : Query := { q with orderBy := q.orderBy ++ [.random] }

/-! ### UNION, LIMIT and parameters -/

def union (q other : Query) : Query := { q with unions := q.unions ++ [⟨other, false⟩] }

def unionAll (q other : Query) : Query := { q with unions := q.unions ++ [⟨other, true⟩] }

def withLimit (q : Query) (n : Nat) : Query := { q with limit := some n }

def withOffset (q : Query) (n : Nat) : Query := { q with offset := some n }

def clearLimit (q : Query) : Query := { q with limit := none, offset := none }

def withParams (q : Query) (params : Params) : Query := { q with params }

def addParams (q : Query) (params : Params) : Query := { q with params := q.params.extend params }

def bind (q : Query) (name : String) (value : Value) : Query :=
  { q with params := q.params.insert name value }

def indexByColumn (q : Query) (column : String) : Query :=
  { q with indexBy := some (.column column) }

def indexByKey (q : Query) (key : Row → String) : Query := { q with indexBy := some (.key key) }

/-! ### Aggregates -/

/-- Whether an aggregate over the rows of a query needs the query as a table of its own. -/
def needsWrapping (q : Query) : Bool :=
  decide (q.distinct ≠ .no) || !q.groupBy.isEmpty || q.having.isSome || !q.unions.isEmpty

/-- The query that selects one aggregate over the rows of `q`. Where nothing forms groups, it is the
same query without its ordering and paging. -/
def scalarQuery (q : Query) (expr : String) : Query :=
  if q.needsWrapping then (Query.empty.selectExpr (.ofSql expr) none).fromQuery q "c"
  else
    { q with
      select := [⟨.expr (.ofSql expr), none⟩], orderBy := [], limit := none, offset := none
      indexBy := none }

end Query

end SqlCompose
