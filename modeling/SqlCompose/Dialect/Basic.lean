import SqlCompose.Text.Ascii
import SqlCompose.Value

/-!
# Dialects

The five database engines that statements are written for, and what each of them fixes by a word or
a yes or no.
-/

namespace SqlCompose

/-- A database engine. -/
inductive Dialect
  | sqlite
  | mysql
  | pgsql
  | mssql
  | cubrid
  deriving DecidableEq

namespace Dialect

def name : Dialect → String
  | .sqlite => "sqlite"
  | .mysql => "mysql"
  | .pgsql => "pgsql"
  | .mssql => "mssql"
  | .cubrid => "cubrid"

/-- The engine that a driver name stands for, in any letter case. -/
def ofDriver? (driver : String) : Option Dialect :=
  match Text.toLower driver with
  | "sqlite" | "sqlite3" => some .sqlite
  | "mysql" | "mysqli" | "mariadb" => some .mysql
  | "pgsql" | "postgres" | "postgresql" => some .pgsql
  | "sqlsrv" | "mssql" | "dblib" => some .mssql
  | "cubrid" => some .cubrid
  | _ => none

/-- The characters before and after a quoted name. -/
def nameQuotes : Dialect → Char × Char
  | .sqlite | .mysql => ('\x60', '\x60')
  | .pgsql | .cubrid => ('"', '"')
  | .mssql => ('[', ']')

/-- Whether a backslash escapes inside a string literal. -/
def escapesBackslash : Dialect → Bool
  | .mysql | .cubrid => true
  | _ => false

def boolValue : Dialect → Bool → Value
  | .pgsql, b => .text (if b then "TRUE" else "FALSE")
  | _, b => .int (if b then 1 else 0)

def boolLiteral : Dialect → Bool → String
  | .pgsql, b => if b then "TRUE" else "FALSE"
  | _, b => if b then "1" else "0"

/-- The pattern of a point in time: year, month, day, hour, minute and second. -/
def dateTimeFormat (_ : Dialect) : String := "%Y-%m-%d %H:%M:%S"

def randomFunction : Dialect → String
  | .sqlite => "RANDOM()"
  | .mssql => "NEWID()"
  | _ => "RAND()"

/-- What declares the backslash as the escape of a LIKE pattern, where it is not one already. -/
def likeEscape : Dialect → String
  | .sqlite | .mssql => " ESCAPE '\\'"
  | _ => ""

/-- The LIKE operator that ignores letter case. -/
def ilikeOperator : Dialect → String
  | .pgsql => "ILIKE"
  | _ => "LIKE"

/-- Whether a tuple of columns can be compared with a list of tuples. -/
def hasRowValueIn : Dialect → Bool
  | .sqlite | .mssql => false
  | _ => true

/-- Whether the members of a union stand in parentheses. -/
def parenthesizesUnion : Dialect → Bool
  | .sqlite => false
  | _ => true

/-- The limit that stands for none, where an offset needs a limit before it. -/
def unboundedLimit? : Dialect → Option String
  | .sqlite => some "-1"
  | .mysql | .cubrid => some "18446744073709551615"
  | _ => none

/-- The clause that limits and offsets the rows; an offset of zero is none. -/
def limitClause (d : Dialect) (limit offset : Option Nat) : String :=
  let offset := offset.filter (0 < ·)
  match d with
  | .mssql =>
    match limit, offset with
    | some n, offset =>
      "OFFSET " ++ toString (offset.getD 0) ++ " ROWS FETCH NEXT " ++ toString n ++ " ROWS ONLY"
    | none, some k => "OFFSET " ++ toString k ++ " ROWS"
    | none, none => ""
  | d =>
    match limit, offset with
    | some n, some k => "LIMIT " ++ toString n ++ " OFFSET " ++ toString k
    | some n, none => "LIMIT " ++ toString n
    | none, some k =>
      match d.unboundedLimit? with
      | some all => "LIMIT " ++ all ++ " OFFSET " ++ toString k
      | none => "OFFSET " ++ toString k
    | none, none => ""

/-- The statement that empties a table. -/
def truncateTable (d : Dialect) (quotedTable : String) : String :=
  match d with
  | .sqlite => "DELETE FROM " ++ quotedTable
  | _ => "TRUNCATE TABLE " ++ quotedTable

/-- The statement that asks whether a query has a row. -/
def selectExists (d : Dialect) (sql : String) : String :=
  match d with
  | .mssql => "SELECT CASE WHEN EXISTS(" ++ sql ++ ") THEN 1 ELSE 0 END"
  | _ => "SELECT EXISTS(" ++ sql ++ ")"

/-- The statement that inserts a row of defaults. -/
def defaultValuesInsert (d : Dialect) (quotedTable : String) : String :=
  match d with
  | .mysql => "INSERT INTO " ++ quotedTable ++ " () VALUES ()"
  | _ => "INSERT INTO " ++ quotedTable ++ " DEFAULT VALUES"

end Dialect

end SqlCompose
