import SqlCompose.Expression
import SqlCompose.Lookup.Basic
import SqlCompose.Operator

/-!
# Queries and conditions

The description of a SELECT and of the predicates in it. The two are defined together: a query
filters by conditions, and a condition may compare with a query. A description holds no statement
text of its own and can be written for any dialect.
-/

namespace SqlCompose

/-- A row of a result: the values of its columns, in the order of the SELECT list. -/
abbrev Row := OrderedMap Value

/-- How duplicate rows are treated. -/
inductive Distinct
  | no
  | all
  | on (columns : List String)
  deriving DecidableEq

/-- How a table is joined. -/
inductive JoinKind
  | inner
  | left
  | right
  | full
  | cross
  | custom (keyword : String)
  deriving DecidableEq

/-- The direction of an ordering. -/
inductive Direction
  | asc
  | desc
  deriving DecidableEq

/-- An entry of an ordering. -/
inductive OrderItem
  | column (name : String) (direction : Direction)
  | expr (e : Expression)
  | random
  deriving DecidableEq

/-- How the rows of a result are keyed. -/
inductive IndexBy
  | column (name : String)
  | key (f : Row → String)

mutual
/-- What a column is compared with. -/
inductive Operand
  | value (v : Value)
  | list (vs : List Value)
  | query (q : Query)
  | expr (e : Expression)

/-- What columns are looked for in. -/
inductive Members
  | list (vs : List Value)
  | rows (rows : List (List Value))
  | query (q : Query)

/-- A predicate on a row. -/
inductive Condition
  /-- Every column equals its operand: a list as one of its members, a query as one of its rows. -/
  | hash (pairs : List (String × Operand))
  | and (items : List Condition)
  | or (items : List Condition)
  | not (item : Condition)
  | between (column : String) (low high : Value) (negated : Bool)
  | within (columns : List String) (members : Members) (negated : Bool)
  /-- A column is like each value, or like one of them; a raw pattern is not escaped. -/
  | like (op : LikeOp) (column : String) (values : List Value) (rawPattern : Bool)
  | exist (query : Query) (negated : Bool)
  | compare (column : String) (op : CompareOp) (operand : Operand)
  | raw (sql : String) (params : Params)
  | expr (e : Expression)
  | lookup (field : String) (lookup : Lookup) (operand : Operand)

/-- What is selected or grouped by. -/
inductive Selectable
  | column (name : String)
  | expr (e : Expression)
  | query (q : Query)

/-- An entry of the SELECT list. -/
structure SelectItem where
  item : Selectable
  label : Option String

/-- Where rows come from. -/
inductive TableSource
  | table (name : String)
  | query (q : Query)
  | expr (e : Expression)

/-- A source of rows with the name it goes by. -/
structure TableRef where
  source : TableSource
  label : Option String

/-- A joined table. -/
structure Join where
  kind : JoinKind
  table : TableRef
  on : Option Condition

/-- A further member of a union. -/
structure UnionMember where
  query : Query
  all : Bool

/-- The description of a SELECT. -/
structure Query where
  select : List SelectItem
  selectOption : Option String
  distinct : Distinct
  tables : List TableRef
  joins : List Join
  filter : Option Condition
  groupBy : List Selectable
  having : Option Condition
  orderBy : List OrderItem
  unions : List UnionMember
  limit : Option Nat
  offset : Option Nat
  indexBy : Option IndexBy
  params : Params
end

/-- The query that selects everything from nothing. -/
def Query.empty : Query :=
  { select := [], selectOption := none, distinct := .no, tables := [], joins := [], filter := none
    groupBy := [], having := none, orderBy := [], unions := [], limit := none, offset := none
    indexBy := none, params := ∅ }

instance : Inhabited Query := ⟨.empty⟩

instance : Inhabited Condition := ⟨.and []⟩

instance : Inhabited Operand := ⟨.value .null⟩

end SqlCompose
