import SqlCompose.Dialect.Quoting
import SqlCompose.Query.Basic
import SqlCompose.Schema.Table

/-!
# Catalogs

Every engine describes its tables in a catalog. Here are the queries that ask a catalog for the
names of tables and for the columns of a table, and the reading of the rows it answers with.
-/

namespace SqlCompose.Catalog

/-! ### Queries -/

def tableNamesSql (d : Dialect) (schema : Option String) : String :=
  match d with
  | .sqlite =>
    "SELECT DISTINCT tbl_name FROM sqlite_master WHERE tbl_name<>'sqlite_sequence' " ++
      "ORDER BY tbl_name"
  | .mysql =>
    match schema with
    | some s => "SHOW TABLES FROM " ++ d.quoteSegment s
    | none => "SHOW TABLES"
  | .pgsql =>
    "SELECT table_name FROM information_schema.tables WHERE table_schema = " ++
      d.quoteText (schema.getD "public") ++ " AND table_type = 'BASE TABLE' ORDER BY table_name"
  | .mssql =>
    "SELECT TABLE_NAME FROM INFORMATION_SCHEMA.TABLES WHERE TABLE_SCHEMA = " ++
      d.quoteText (schema.getD "dbo") ++ " AND TABLE_TYPE = 'BASE TABLE' ORDER BY TABLE_NAME"
  | .cubrid =>
    "SELECT class_name FROM db_class WHERE is_system_class = 'NO' AND class_type = 'CLASS' " ++
      "ORDER BY class_name"

def columnsSql (d : Dialect) (table : String) (schema : Option String) : String :=
  match d with
  | .sqlite => "PRAGMA table_info(" ++ d.quoteSegment table ++ ")"
  | .mysql | .cubrid =>
    let qualified := match schema with
      | some s => s ++ "." ++ table
      | none => table
    "SHOW FULL COLUMNS FROM " ++ d.quoteTable qualified
  | .pgsql =>
    "SELECT c.column_name, c.data_type, c.udt_name, c.is_nullable, c.column_default, " ++
      "c.character_maximum_length, c.numeric_precision, c.numeric_scale, " ++
      "CASE WHEN tc.constraint_type = 'PRIMARY KEY' THEN 1 ELSE 0 END AS is_pkey " ++
      "FROM information_schema.columns c " ++
      "LEFT JOIN information_schema.key_column_usage kcu " ++
      "ON kcu.table_schema = c.table_schema AND kcu.table_name = c.table_name " ++
      "AND kcu.column_name = c.column_name " ++
      "LEFT JOIN information_schema.table_constraints tc " ++
      "ON tc.constraint_name = kcu.constraint_name AND tc.table_schema = kcu.table_schema " ++
      "AND tc.constraint_type = 'PRIMARY KEY' " ++
      "WHERE c.table_schema = " ++ d.quoteText (schema.getD "public") ++
      " AND c.table_name = " ++ d.quoteText table ++ " ORDER BY c.ordinal_position"
  | .mssql =>
    "SELECT c.COLUMN_NAME AS column_name, c.DATA_TYPE AS data_type, " ++
      "c.IS_NULLABLE AS is_nullable, c.COLUMN_DEFAULT AS column_default, " ++
      "c.CHARACTER_MAXIMUM_LENGTH AS character_maximum_length, " ++
      "c.NUMERIC_PRECISION AS numeric_precision, c.NUMERIC_SCALE AS numeric_scale, " ++
      "COLUMNPROPERTY(OBJECT_ID(c.TABLE_SCHEMA + '.' + c.TABLE_NAME), c.COLUMN_NAME, " ++
      "'IsIdentity') AS is_identity, " ++
      "CASE WHEN tc.CONSTRAINT_TYPE = 'PRIMARY KEY' THEN 1 ELSE 0 END AS is_pkey " ++
      "FROM INFORMATION_SCHEMA.COLUMNS c " ++
      "LEFT JOIN INFORMATION_SCHEMA.KEY_COLUMN_USAGE kcu " ++
      "ON kcu.TABLE_SCHEMA = c.TABLE_SCHEMA AND kcu.TABLE_NAME = c.TABLE_NAME " ++
      "AND kcu.COLUMN_NAME = c.COLUMN_NAME " ++
      "LEFT JOIN INFORMATION_SCHEMA.TABLE_CONSTRAINTS tc " ++
      "ON tc.CONSTRAINT_NAME = kcu.CONSTRAINT_NAME " ++
      "AND tc.CONSTRAINT_TYPE = 'PRIMARY KEY' " ++
      "WHERE c.TABLE_SCHEMA = " ++ d.quoteText (schema.getD "dbo") ++
      " AND c.TABLE_NAME = " ++ d.quoteText table ++ " ORDER BY c.ORDINAL_POSITION"

/-! ### Cells -/

/-- The first cell under one of some names, in any letter case, that is not null. Of the cells whose
names differ in letter case only the first one counts. -/
def cell? (row : Row) (names : List String) : Option Value :=
  names.findSome? fun name =>
    ((row.entries.find? fun (key, _) => Text.equalsIgnoringCase key name).map Prod.snd).filter
      fun v => !v.isNull

def cellText? (row : Row) (names : List String) : Option String :=
  (cell? row names).map Value.display

/-- Whether a cell says yes. -/
def cellBool (row : Row) (names : List String) : Bool :=
  match cell? row names with
  | some (.text s) =>
    let s := Text.trim s
    Text.equalsIgnoringCase s "yes" || Text.equalsIgnoringCase s "true" || s == "1"
  | some v => v.asBool?.getD false
  | none => false

/-- The number of a cell, if it is an unsigned number of 32 bits. -/
def cellSize? (row : Row) (names : List String) : Option Nat :=
  ((cell? row names).bind Value.asInt?).bind fun n =>
    if 0 ≤ n.toInt ∧ n.toInt < Nat.pow 2 32 then some n.toInt.toNat else none

/-! ### Defaults -/

/-- The text between two given characters at its ends, if it has both. -/
def between? (opening closing : Char) (s : List Char) : Option (List Char) :=
  match s with
  | c :: rest =>
    match rest.reverse with
    | d :: inside => if c = opening ∧ d = closing then some inside.reverse else none
    | [] => none
  | [] => none

/-- Drop the parentheses around a text and the blanks inside them, at most so many pairs. -/
def unwrap : (fuel : Nat) → List Char → List Char
  | 0, s => s
  | fuel + 1, s =>
    match between? '(' ')' s with
    | some inside => unwrap fuel (Chars.trim inside)
    | none => s

/-- The default that a default expression stands for: a literal without its casts, its parentheses
and its quotes. A name or a call stands for none. -/
def default? (raw : String) : Option String :=
  let s := Chars.trim raw.toList
  let s := unwrap s.length s
  let s := match Chars.splitFirst [':', ':'] s with
    | some (literal, _) => Chars.trim literal
    | none => s
  if Text.equalsIgnoringCase (.ofList s) "null" then none
  else match between? '\'' '\'' s with
    | some inside => some (.ofList (Chars.replace ['\'', '\''] ['\''] inside))
    | none =>
      if s.contains '(' || s.all (fun c => c.isAlpha || c == '_') then none
      else some (.ofList s)

/-- The sequence that a default expression takes its next number from. -/
def sequence? (raw : String) : Option String :=
  let s := Chars.trim raw.toList
  let call := "nextval(".toList
  if call.isPrefixOf s then do
    let (_, rest) ← Chars.splitFirst ['\''] (s.drop call.length)
    let (name, _) ← Chars.splitFirst ['\''] rest
    some (.ofList name)
  else none

/-! ### Columns -/

/-- What a row of a catalog says of a column, whatever the engine calls it. -/
structure Entry where
  typeName : String
  allowNull : Bool
  isPrimaryKey : Bool
  rawDefault : Option String
  autoIncrement : Bool

def entry (d : Dialect) (row : Row) : Entry :=
  match d with
  | .sqlite =>
    { typeName := (cellText? row ["type"]).getD ""
      allowNull := !cellBool row ["notnull"]
      isPrimaryKey := decide (0 < (((cell? row ["pk"]).bind Value.asInt?).getD 0))
      rawDefault := cellText? row ["dflt_value"]
      autoIncrement := false }
  | .mysql | .cubrid =>
    { typeName := (cellText? row ["type"]).getD ""
      allowNull := cellBool row ["null"]
      isPrimaryKey := (cellText? row ["key"]).any (Text.contains "PRI")
      rawDefault := cellText? row ["default"]
      autoIncrement := (cellText? row ["extra"]).any (Text.contains "auto_increment") }
  | .pgsql =>
    let dataType := (cellText? row ["data_type"]).getD ""
    let rawDefault := cellText? row ["column_default"]
    { typeName :=
        if Text.equalsIgnoringCase dataType "USER-DEFINED" then
          (cellText? row ["udt_name"]).getD dataType
        else dataType
      allowNull := cellBool row ["is_nullable"]
      isPrimaryKey := cellBool row ["is_pkey"]
      rawDefault
      autoIncrement := rawDefault.any fun s => "nextval(".toList.isPrefixOf s.toList }
  | .mssql =>
    { typeName := (cellText? row ["data_type"]).getD ""
      allowNull := cellBool row ["is_nullable"]
      isPrimaryKey := cellBool row ["is_pkey"]
      rawDefault := cellText? row ["column_default"]
      autoIncrement := cellBool row ["is_identity"] }

/-- The default of a column as text. Two engines report literals without quotes; there only the
current time is a call. -/
def defaultText? (d : Dialect) (rawDefault : Option String) : Option String :=
  match d with
  | .mysql | .cubrid =>
    rawDefault.filter fun s => !"CURRENT_".toList.isPrefixOf (Text.toUpper s).toList
  | _ => rawDefault.bind default?

/-- Take the sizes that some engines report in cells of their own. -/
def withSizes (d : Dialect) (row : Row) (c : ColumnSchema) : ColumnSchema :=
  if d = .pgsql ∨ d = .mssql then
    { c with
      size := (cellSize? row ["character_maximum_length"]).or c.size
      precision := (cellSize? row ["numeric_precision"]).or c.precision
      scale := (cellSize? row ["numeric_scale"]).or c.scale }
  else c

/-- The column of a row, and the sequence it counts by. -/
def column (d : Dialect) (row : Row) : Outcome (ColumnSchema × Option String) :=
  match cellText? row ["column_name", "field", "name"] with
  | none => .error (.schema "catalog row has no column name")
  | some name =>
    let e := entry d row
    let c := withSizes d row
      { ColumnSchema.ofTypeName d name e.typeName with
        allowNull := e.allowNull && !e.isPrimaryKey
        isPrimaryKey := e.isPrimaryKey
        autoIncrement := e.autoIncrement }
    if e.autoIncrement then .ok (c, e.rawDefault.bind sequence?)
    else match defaultText? d e.rawDefault with
      | some text => .ok (c.withDefault (.text text), none)
      | none => .ok (c, none)

/-- Add the columns of some rows to a table. The first sequence found is the sequence of the
table. -/
def addRows (d : Dialect) (t : TableSchema) : List Row → Outcome TableSchema
  | [] => .ok t
  | row :: rows =>
    match column d row with
    | .error e => .error e
    | .ok (c, sequence) =>
      addRows d ({ t with sequenceName := t.sequenceName.or sequence }.addColumn c) rows

/-- The table that the rows of a catalog describe; a table without columns does not exist. -/
def table (d : Dialect) (name : String) (schema : Option String) (rows : List Row) :
    Outcome TableSchema :=
  if rows.isEmpty then .error (.schema ("table '" ++ name ++ "' does not exist"))
  else addRows d (.new name schema) rows

end SqlCompose.Catalog
