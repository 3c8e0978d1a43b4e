import SqlCompose.Text.Split
import SqlCompose.Dialect.Basic

/-!
# Quoting

String literals are quoted with single quotes, a quote inside being written twice. Names are quoted
segment by segment with the quotes of the dialect; a segment that already has an opening quote, and
a name that is an expression or uses pseudo-syntax, stay as they are.
-/

namespace SqlCompose.Dialect

/-- A character inside a string literal. -/
def literalChar (d : Dialect) (c : Char) : List Char :=
  if c = '\'' then ['\'', '\'']
  else if c = '\\' ∧ d.escapesBackslash then ['\\', '\\']
  else [c]

def quoteText (d : Dialect) (s : String) : String :=
  .ofList ('\'' :: (s.toList.flatMap d.literalChar ++ ['\'']))

/-- A name between quotes, unless it already has an opening quote. -/
def quoteSegment (d : Dialect) (name : String) : String :=
  let (opening, closing) := d.nameQuotes
  if name.toList.contains opening then name
  else .ofList (opening :: (name.toList ++ [closing]))

/-- The name of a column without its table; the star is not quoted. -/
def quoteColumnSegment (d : Dialect) (name : String) : String :=
  if name = "*" then name else d.quoteSegment name

/-- A name with a parenthesis or with pseudo-syntax is not quoted. -/
def isVerbatimName (name : String) : Bool :=
  name.toList.contains '(' || Text.contains "[[" name || Text.contains "\x7b\x7b" name

/-- The name of a table, with or without its schema. -/
def quoteTable (d : Dialect) (name : String) : String :=
  if isVerbatimName name then name
  else Text.join "." ((Text.split '.' name).map d.quoteSegment)

def quoteColumn (d : Dialect) (name : String) : String :=
  if isVerbatimName name then name
  else match Text.splitLast "." name with
    | some (table, column) => d.quoteTable table ++ "." ++ d.quoteColumnSegment column
    | none => d.quoteColumnSegment name

/-- A value as it stands in a statement. -/
def literal (d : Dialect) : Value → String
  | .null => "NULL"
  | .bool b => d.boolLiteral b
  | .int n => toString n.toInt
  | .float x => x.plain
  | .text s => d.quoteText s
  | .dateTime t => d.quoteText t.text
  | .date t => d.quoteText t.text

end SqlCompose.Dialect
