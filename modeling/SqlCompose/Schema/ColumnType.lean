import SqlCompose.Text.Blank
import SqlCompose.Dialect.Basic

/-!
# Column types

The types of columns, and which of them a type name of a database stands for. A type name may carry
a size in parentheses and the word `unsigned`; neither changes the type, but two dialects keep
booleans in a type that is otherwise numeric.
-/

namespace SqlCompose

/-- The type of a column. -/
inductive ColumnType
  | tinyInt
  | smallInt
  | integer
  | bigInt
  | float
  | double
  | decimal
  | money
  | boolean
  | char
  | string
  | text
  | binary
  | date
  | time
  | dateTime
  | timestamp
  | json
  deriving DecidableEq

namespace ColumnType

def name : ColumnType → String
  | .tinyInt => "tiny_int"
  | .smallInt => "small_int"
  | .integer => "integer"
  | .bigInt => "big_int"
  | .float => "float"
  | .double => "double"
  | .decimal => "decimal"
  | .money => "money"
  | .boolean => "boolean"
  | .char => "char"
  | .string => "string"
  | .text => "text"
  | .binary => "binary"
  | .date => "date"
  | .time => "time"
  | .dateTime => "date_time"
  | .timestamp => "timestamp"
  | .json => "json"

def all : List ColumnType :=
  [.tinyInt, .smallInt, .integer, .bigInt, .float, .double, .decimal, .money, .boolean, .char,
    .string, .text, .binary, .date, .time, .dateTime, .timestamp, .json]

def ofName? (name : String) : Option ColumnType := all.find? (·.name == name)

/-- The type that a type name without size and sign stands for; an unknown one is a string. -/
def ofBaseName : String → ColumnType
  | "tinyint" => .tinyInt
  | "smallint" | "int2" | "smallserial" => .smallInt
  | "int" | "integer" | "int4" | "mediumint" | "serial" | "bit" => .integer
  | "bigint" | "int8" | "bigserial" => .bigInt
  | "float" | "real" | "float4" => .float
  | "double" | "double precision" | "float8" => .double
  | "decimal" | "numeric" => .decimal
  | "money" | "smallmoney" => .money
  | "bool" | "boolean" => .boolean
  | "char" | "nchar" | "character" | "bpchar" => .char
  | "text" | "tinytext" | "mediumtext" | "longtext" | "ntext" | "clob" | "xml" => .text
  | "blob" | "tinyblob" | "mediumblob" | "longblob" | "binary" | "varbinary" | "bytea" | "image"
  | "bit varying" => .binary
  | "date" => .date
  | "time" | "time without time zone" | "time with time zone" | "timetz" => .time
  | "datetime" | "datetime2" | "smalldatetime" | "datetimeoffset" => .dateTime
  | "timestamp" | "timestamp without time zone" | "timestamp with time zone" | "timestamptz" =>
    .timestamp
  | "json" | "jsonb" => .json
  | _ => .string

/-- Drop a word from the end of a text as often as it stands there; the text is given back to front,
and so is the word. -/
def dropSuffixes (reversedWord : List Char) : (fuel : Nat) → List Char → List Char
  | 0, s => s
  | fuel + 1, s =>
    if reversedWord.isPrefixOf s then dropSuffixes reversedWord fuel (s.drop reversedWord.length)
    else s

/-- The type name without its size and the word `unsigned`. -/
def baseName (lower : String) : String :=
  let beforeSize := lower.toList.takeWhile (· != '(')
  let reversed := dropSuffixes " unsigned".toList.reverse beforeSize.length beforeSize.reverse
  .ofList (Chars.trim reversed.reverse)

/-- The type that a type name stands for in a dialect. -/
def ofTypeName (d : Dialect) (typeName : String) : ColumnType :=
  let lower := Text.toLower (Text.trim typeName)
  if d = .mysql ∧ "tinyint(1)".toList.isPrefixOf lower.toList then .boolean
  else if d = .mssql ∧ lower = "bit" then .boolean
  else ofBaseName (baseName lower)

/-- Whether values of a type are integers. -/
def isInteger : ColumnType → Bool
  | .tinyInt | .smallInt | .integer | .bigInt => true
  | _ => false

/-- Whether the empty text is a value of a type. -/
def isTextual : ColumnType → Bool
  | .char | .string | .text | .binary => true
  | _ => false

end ColumnType

end SqlCompose
