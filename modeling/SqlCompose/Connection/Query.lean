import SqlCompose.Connection.Basic
import SqlCompose.Schema.Catalog

/-!
# Asking a connection

The questions that a query, or the catalog, puts to a connection.
-/

namespace SqlCompose

def Connection.builtEvent (c : Connection) (b : Built) : Event :=
  .built c.dialect.name b.allParams.size b.sql

namespace Query

/-- Write a query and send it. -/
def ask {Result : Type} (q : Query) (c : Connection)
    (send : Command → Request (List Row) Result) : Outcome (Request (List Row) Result) :=
  (c.builder.build (.select q)).map fun b =>
    (send (.ofBuilt c b)).reporting (c.builtEvent b)

def all (q : Query) (c : Connection) : Outcome (Request (List Row) (List Row)) :=
  q.ask c Command.all

def one (q : Query) (c : Connection) : Outcome (Request (List Row) (Option Row)) :=
  q.ask c Command.one

def scalar (q : Query) (c : Connection) : Outcome (Request (List Row) (Option Value)) :=
  q.ask c Command.scalar

def column (q : Query) (c : Connection) : Outcome (Request (List Row) (List Value)) :=
  q.ask c Command.column

/-- The key of the row at a position. Without an index it is the position; a row without the column
of the index has an empty key. -/
def keyOf (indexBy : Option IndexBy) (position : Nat) (row : Row) : String :=
  match indexBy with
  | none => toString position
  | some (.column name) => ((row.get? name).map Value.display).getD ""
  | some (.key f) => f row

/-- The rows by their keys: of the rows of one key the last, at the place of the first. -/
def indexRows (indexBy : Option IndexBy) (rows : List Row) : OrderedMap Row :=
  .ofList (rows.mapIdx fun i row => (keyOf indexBy i row, row))

/-- Ask for all rows, by their keys. -/
def allIndexed (q : Query) (c : Connection) : Outcome (Request (List Row) (OrderedMap Row)) :=
  (q.all c).map (Request.map (indexRows q.indexBy))

/-- Ask for a count over the rows; an answer that is no integer counts as zero. -/
def count (q : Query) (c : Connection) (expr : String) : Outcome (Request (List Row) Int64) :=
  ((q.scalarQuery ("COUNT(" ++ expr ++ ")")).scalar c).map
    (Request.map fun v => (v.bind Value.asInt?).getD 0)

/-- Ask whether there is a row; an answer that is no boolean counts as no. -/
def exist (q : Query) (c : Connection) : Outcome (Request (List Row) Bool) :=
  (c.builder.build (.select q)).map fun b =>
    let cmd := (Command.new c (c.dialect.selectExists b.sql)).withParams b.allParams
    (cmd.scalar.map fun v => (v.bind Value.asBool?).getD false).reporting (c.builtEvent b)

end Query

namespace Connection

def tableSchema (c : Connection) (table : String) (schema : Option String) :
    Request (List Row) TableSchema :=
  { events := [], call := ⟨.query, Catalog.columnsSql c.dialect table schema, ∅⟩
    read := Catalog.table c.dialect table schema }

def tableNames (c : Connection) (schema : Option String) : Request (List Row) (List String) :=
  { events := [], call := ⟨.query, Catalog.tableNamesSql c.dialect schema, ∅⟩
    read := fun rows => .ok ((rows.filterMap firstCell?).map Value.display) }

end Connection

end SqlCompose
