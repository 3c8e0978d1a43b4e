import SqlCompose.Text.Word
import SqlCompose.Dialect.Quoting

/-!
# Pseudo-syntax

A verbatim text may name a table in double braces and a column in double brackets. Resolving it
quotes the name for the dialect; a percent sign in the name of a table stands for the table prefix
of the connection. Everything else stays as it is.
-/

namespace SqlCompose

/-- A name written in pseudo-syntax. -/
inductive Reference
  | table (name : List Char)
  | column (name : List Char)

namespace Reference

/-- The characters that may stand in a name, the percent sign apart. -/
def isNameChar (c : Char) : Bool := isWordChar c || c == '-' || c == '.' || c == ' '

/-- A percent sign at the start of a text, and the rest. -/
def percent : List Char → List Char × List Char
  | '%' :: rest => (['%'], rest)
  | rest => ([], rest)

/-- The reference at the start of a text, if one starts there. -/
def ofChars? : List Char → Option Reference
  | '\x7b' :: '\x7b' :: rest =>
    let (before, rest) := percent rest
    let (name, rest) := rest.span isNameChar
    let (after, rest) := percent rest
    match name, rest with
    | _ :: _, '\x7d' :: '\x7d' :: _ => some (.table (before ++ name ++ after))
    | _, _ => none
  | '[' :: '[' :: rest =>
    let (name, rest) := rest.span isNameChar
    match name, rest with
    | _ :: _, ']' :: ']' :: _ => some (.column name)
    | _, _ => none
  | _ => none

/-- The number of characters of a reference, its brackets included. -/
def length : Reference → Nat
  | .table name => name.length + 4
  | .column name => name.length + 4

/-- The quoted name of a reference. -/
def resolve (d : Dialect) (tablePrefix : String) : Reference → String
  | .table name => d.quoteTable (Text.replaceChar '%' tablePrefix (.ofList name))
  | .column name => d.quoteColumn (.ofList name)

/-- Resolve the references of a text whose first `skip` characters belong to a reference already
resolved. -/
def resolveFrom (d : Dialect) (tablePrefix : String) : (skip : Nat) → List Char → List Char
  | _, [] => []
  | skip + 1, _ :: rest => resolveFrom d tablePrefix skip rest
  | 0, c :: rest =>
    match ofChars? (c :: rest) with
    | some reference =>
      (reference.resolve d tablePrefix).toList ++
        resolveFrom d tablePrefix (reference.length - 1) rest
    | none => c :: resolveFrom d tablePrefix 0 rest

end Reference

/-- Resolve the pseudo-syntax of a text. -/
def Dialect.quoteSql (d : Dialect) (tablePrefix sql : String) : String :=
  .ofList (Reference.resolveFrom d tablePrefix 0 sql.toList)

end SqlCompose
