import SqlCompose.Schema.ColumnType
import SqlCompose.Text.Split

/-!
# Columns

What is known of a column, and the cast of a value to its type. A value that has no meaning in the
type of the column is left as it is; the empty text is null in a column that admits null and does
not hold text.
-/

namespace SqlCompose

/-- What is known of a column. -/
structure ColumnSchema where
  name : String
  kind : ColumnType
  /-- The name of the type in the database. -/
  typeName : String
  allowNull : Bool
  isPrimaryKey : Bool
  default : Option Value
  size : Option Nat
  precision : Option Nat
  scale : Option Nat
  unsigned : Bool
  autoIncrement : Bool

namespace ColumnSchema

/-- A column that admits null and is no key. -/
def new (name : String) (kind : ColumnType) (typeName : String) : ColumnSchema :=
  { name, kind, typeName, allowNull := true, isPrimaryKey := false, default := none, size := none
    precision := none, scale := none, unsigned := false, autoIncrement := false }

/-- Read an unsigned number of 32 bits, with or without a plus sign. -/
def size? (s : List Char) : Option Nat :=
  let digits := match s with
    | '+' :: rest => rest
    | s => s
  (Digits.natural? digits).filter (· < Nat.pow 2 32)

/-- The numbers in parentheses after a type name; what is no number is passed over. -/
def sizesOf (typeName : String) : List Nat :=
  match Chars.splitFirst ['('] typeName.toList with
  | none => []
  | some (_, rest) =>
    let inside := ((rest.reverse.dropWhile (· != ')')).dropWhile (· == ')')).reverse
    (Chars.split ',' inside).filterMap fun s => size? (Chars.trim s)

/-- A column of which only the type name is known. -/
def ofTypeName (d : Dialect) (name typeName : String) : ColumnSchema :=
  let sizes := sizesOf typeName
  { new name (.ofTypeName d typeName) typeName with
    unsigned := Text.contains "unsigned" (Text.toLower typeName)
    size := sizes[0]?, precision := sizes[0]?, scale := sizes[1]? }

/-- Make a column a primary key, which does not admit null. -/
def asPrimaryKey (c : ColumnSchema) : ColumnSchema :=
  { c with isPrimaryKey := true, allowNull := false }

/-- Make a column refuse null. -/
def notNull (c : ColumnSchema) : ColumnSchema := { c with allowNull := false }

/-- Make a column count on its own. -/
def counting (c : ColumnSchema) : ColumnSchema := { c with autoIncrement := true }

/-- The value as a value of the type. -/
def castTo : ColumnType → Value → Value
  | .boolean, v => (v.asBool?.map .bool).getD v
  | .tinyInt, v | .smallInt, v | .integer, v | .bigInt, v => (v.asInt?.map .int).getD v
  | .float, v | .double, v => (v.asFloat?.map .float).getD v
  | .decimal, v | .money, v =>
    match v with
    | .int _ | .float _ => .text v.display
    | _ => v
  | .char, v | .string, v | .text, v =>
    match v with
    | .int _ | .float _ | .bool _ => .text v.display
    | _ => v
  | _, v => v

/-- Cast a value before it is bound to a column. -/
def typecast (c : ColumnSchema) (v : Value) : Value :=
  if v.isNull then .null
  else if c.allowNull && !c.kind.isTextual && v = .text "" then .null
  else castTo c.kind v

/-- Give a column a default of its type. -/
def withDefault (c : ColumnSchema) (v : Value) : ColumnSchema :=
  { c with default := some (c.typecast v) }

end ColumnSchema

end SqlCompose
