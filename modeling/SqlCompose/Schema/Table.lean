import SqlCompose.Schema.Column

/-!
# Tables and their registry

What is known of a table, and the tables that are known. Within a registry a table is known by its
schema and its name; a table without a schema is found before one with a schema.
-/

namespace SqlCompose

/-- What is known of a table. -/
structure TableSchema where
  name : String
  schemaName : Option String
  columns : List ColumnSchema
  primaryKey : List String
  sequenceName : Option String

namespace TableSchema

def new (name : String) (schemaName : Option String) : TableSchema :=
  { name, schemaName, columns := [], primaryKey := [], sequenceName := none }

/-- The name with the schema before it, if there is one. -/
def fullName (t : TableSchema) : String :=
  match t.schemaName with
  | some schema => schema ++ "." ++ t.name
  | none => t.name

/-- Add a column; a key column is recorded once in the primary key. -/
def addColumn (t : TableSchema) (c : ColumnSchema) : TableSchema :=
  { t with
    columns := t.columns ++ [c]
    primaryKey :=
      if c.isPrimaryKey && !t.primaryKey.contains c.name then t.primaryKey ++ [c.name]
      else t.primaryKey }

def column? (t : TableSchema) (name : String) : Option ColumnSchema :=
  t.columns.find? (·.name == name)

def hasColumn (t : TableSchema) (name : String) : Bool := (t.column? name).isSome

def columnNames (t : TableSchema) : List String := t.columns.map (·.name)

/-- The schema a table is registered under. -/
def schemaKey (t : TableSchema) : String := t.schemaName.getD ""

end TableSchema

/-- The tables that are known. -/
structure SchemaRegistry where
  tables : List TableSchema

namespace SchemaRegistry

def empty : SchemaRegistry := ⟨[]⟩

instance : EmptyCollection SchemaRegistry := ⟨empty⟩

def getTable? (r : SchemaRegistry) (schema name : String) : Option TableSchema :=
  r.tables.find? fun t => t.schemaKey == schema && t.name == name

/-- Register a table; it replaces the one of the same schema and name. -/
def register (r : SchemaRegistry) (t : TableSchema) : SchemaRegistry :=
  ⟨r.tables.filter (fun old => !(old.schemaKey == t.schemaKey && old.name == t.name)) ++ [t]⟩

/-- The table of a name in any schema, one without a schema before the others. -/
def findTable? (r : SchemaRegistry) (name : String) : Option TableSchema :=
  (r.getTable? "" name).or (r.tables.find? (·.name == name))

/-- Drop pairs of a character from the start of a text. -/
def dropPairs (c : Char) : List Char → List Char
  | a :: b :: rest => if a = c ∧ b = c then dropPairs c rest else a :: b :: rest
  | s => s

/-- A name without double braces around it. -/
def unbrace (name : String) : List Char :=
  (dropPairs '\x7d' (dropPairs '\x7b' name.toList).reverse).reverse

/-- The table that a name in a statement means: a point divides the schema from the table. -/
def tableSchema? (r : SchemaRegistry) (name : String) : Option TableSchema :=
  let name := unbrace name
  match Chars.splitFirst ['.'] name with
  | some (schema, table) => r.getTable? (.ofList schema) (.ofList table)
  | none => r.findTable? (.ofList name)

def columnType? (r : SchemaRegistry) (table column : String) : Option ColumnType :=
  (r.tableSchema? table).bind fun t => (t.column? column).map (·.kind)

def size (r : SchemaRegistry) : Nat := r.tables.length

def isEmpty (r : SchemaRegistry) : Bool := r.tables.isEmpty

/-- The full names of the tables, sorted. -/
def fullNames (r : SchemaRegistry) : List String :=
  (r.tables.map (·.fullName)).mergeSort fun a b => !decide (b < a)

end SchemaRegistry

end SqlCompose
