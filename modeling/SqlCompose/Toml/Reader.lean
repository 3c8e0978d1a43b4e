import SqlCompose.Toml.Basic
import SqlCompose.Toml.Scalar
import SqlCompose.Json.Token

/-!
# Reading configuration documents

A document is a sequence of lines: keys with values, headers, comments. Texts are quoted in four
ways, by single or double quotes and on one line or several; arrays and tables in braces may run
over several lines and may end with a comma. Neither values nor keys are nested deeper than 80.
-/

namespace SqlCompose.Toml

/-! ### White space and comments -/

/-- Drop the white space of a line. -/
def dropSpace (s : List Char) : List Char := s.dropWhile fun c => c == ' ' || c == '\t'

/-- Whether a character may stand in a comment or between quotes. -/
def isTextChar (c : Char) : Bool := c == '\t' || (32 ≤ c.toNat && c.toNat != 127)

/-- Drop a comment, if one starts here; its end is a line end. -/
def dropComment : List Char → List Char
  | '#' :: rest => rest.dropWhile isTextChar
  | s => s

/-- Drop a line end. -/
def lineEnd? : List Char → Option (List Char)
  | '\n' :: rest => some rest
  | '\r' :: '\n' :: rest => some rest
  | _ => none

/-- Drop white space, comments and line ends. -/
def dropLines : (fuel : Nat) → List Char → List Char
  | 0, s => s
  | fuel + 1, s =>
    let s := dropComment (dropSpace s)
    match lineEnd? s with
    | some rest => dropLines fuel rest
    | none => s

/-! ### Texts -/

def hexNumber? (s : List Char) : Option Nat :=
  s.foldlM (fun n c => (Json.Token.hexValue? c).map (n * 16 + ·)) 0

/-- The character of a code point of so many hexadecimal digits, and the rest. -/
def codePoint? (n : Nat) (s : List Char) : Option (Char × List Char) := do
  let code ← hexNumber? (s.take n)
  if (s.take n).length = n ∧ code.isValidChar then some (Char.ofNat code, s.drop n) else none

/-- The character that an escape after a backslash stands for, and the rest. -/
def escape? : List Char → Option (Char × List Char)
  | 'b' :: rest => some ('\x08', rest)
  | 't' :: rest => some ('\t', rest)
  | 'n' :: rest => some ('\n', rest)
  | 'f' :: rest => some ('\x0c', rest)
  | 'r' :: rest => some ('\r', rest)
  | 'e' :: rest => some ('\x1b', rest)
  | '"' :: rest => some ('"', rest)
  | '\\' :: rest => some ('\\', rest)
  | 'x' :: rest => codePoint? 2 rest
  | 'u' :: rest => codePoint? 4 rest
  | 'U' :: rest => codePoint? 8 rest
  | _ => none

/-- Read a text up to its closing double quote. -/
def basic? : (fuel : Nat) → List Char → Option (List Char × List Char)
  | 0, _ => none
  | fuel + 1, s =>
    match s with
    | '"' :: rest => some ([], rest)
    | '\\' :: rest => do
      let (c, rest) ← escape? rest
      let (text, rest) ← basic? fuel rest
      some (c :: text, rest)
    | c :: rest =>
      if isTextChar c then (basic? fuel rest).map fun (text, rest) => (c :: text, rest) else none
    | [] => none

/-- Read a text up to its closing single quote. -/
def verbatim? (s : List Char) : Option (List Char × List Char) :=
  match s.span (· != '\'') with
  | (text, '\'' :: rest) => if text.all isTextChar then some (text, rest) else none
  | _ => none

def isLineChar (c : Char) : Bool := isTextChar c || c == '\n'

/-- The quotes that belong to a text of several lines before its closing quotes: at most two. -/
def closingQuotes? (quote : Char) (s : List Char) : Option (List Char × List Char) :=
  let quotes := (s.take 5).takeWhile (· == quote)
  if 3 ≤ quotes.length then some (quotes.drop 3, s.drop quotes.length) else none

/-- Drop white space and line ends. -/
def dropBlankLines : List Char → List Char
  | ' ' :: rest => dropBlankLines rest
  | '\t' :: rest => dropBlankLines rest
  | '\n' :: rest => dropBlankLines rest
  | '\r' :: '\n' :: rest => dropBlankLines rest
  | s => s

/-- Drop a line end and all white space after it. -/
def continued? (s : List Char) : Option (List Char) := (lineEnd? (dropSpace s)).map dropBlankLines

/-- Read a text of several lines up to its closing quotes. Between double quotes a backslash
escapes, also the end of a line. -/
def lines? (quote : Char) : (fuel : Nat) → List Char → Option (List Char × List Char)
  | 0, _ => none
  | fuel + 1, s =>
    match closingQuotes? quote s, s with
    | some (quotes, rest), _ => some (quotes, rest)
    | none, '\r' :: '\n' :: rest =>
      (lines? quote fuel rest).map fun (text, rest) => ('\n' :: text, rest)
    | none, '\\' :: rest =>
      if quote = '\'' then (lines? quote fuel rest).map fun (text, rest) => ('\\' :: text, rest)
      else match continued? rest with
        | some rest => lines? quote fuel rest
        | none => do
          let (c, rest) ← escape? rest
          let (text, rest) ← lines? quote fuel rest
          some (c :: text, rest)
    | none, c :: rest =>
      if isLineChar c then
        (lines? quote fuel rest).map fun (text, rest) => (c :: text, rest)
      else none
    | none, [] => none

/-- Read a text of any of the four kinds. -/
def text? (s : List Char) : Option (String × List Char) :=
  let skipLineEnd (s : List Char) : List Char := (lineEnd? s).getD s
  let found := match s with
    | '"' :: '"' :: '"' :: rest => lines? '"' s.length (skipLineEnd rest)
    | '\'' :: '\'' :: '\'' :: rest => lines? '\'' s.length (skipLineEnd rest)
    | '"' :: rest => basic? s.length rest
    | '\'' :: rest => verbatim? rest
    | _ => none
  found.map fun (text, rest) => (.ofList text, rest)

/-! ### Keys -/

/-- Whether a character may stand in a key without quotes. -/
def isBareChar (c : Char) : Bool := c.isAlphanum || c == '_' || c == '-'

def simpleKey? (s : List Char) : Option (String × List Char) :=
  match s with
  | '"' :: rest => (basic? s.length rest).map fun (text, rest) => (.ofList text, rest)
  | '\'' :: rest => (verbatim? rest).map fun (text, rest) => (.ofList text, rest)
  | s =>
    let (key, rest) := s.span isBareChar
    if key.isEmpty then none else some (.ofList key, rest)

/-- The deepest nesting of a value, and the most dots in a key. -/
def depthLimit : Nat := 80

/-- Read a key with so many dots at most, and the white space after it. -/
def keyWithin? : (dots : Nat) → List Char → Option (List String × List Char)
  | dots, s => do
    let (key, rest) ← simpleKey? s
    match dots, dropSpace rest with
    | 0, '.' :: _ => none
    | dots + 1, '.' :: rest => do
      let (keys, rest) ← keyWithin? dots (dropSpace rest)
      some (key :: keys, rest)
    | _, rest => some ([key], rest)

/-- Read a key with dots, and the white space after it. -/
def key? (s : List Char) : Option (List String × List Char) := keyWithin? depthLimit s

/-! ### Values -/

/-- Whether a character may stand in a number, a date or a truth value. -/
def isScalarChar (c : Char) : Bool := c.isAlphanum || "+-._:".toList.contains c

/-- The spelling of a scalar without quotes: a date may have a time after a space. -/
def spelling (s : List Char) : List Char × List Char :=
  let (word, rest) := s.span isScalarChar
  match date? word, rest with
  | some [], ' ' :: d :: more =>
    if d.isDigit then
      let (time, rest) := (d :: more).span isScalarChar
      (word ++ ' ' :: time, rest)
    else (word, rest)
  | _, _ => (word, rest)

def scalar? (s : List Char) : Option (Toml × List Char) :=
  let (word, rest) := spelling s
  if word = ['t', 'r', 'u', 'e'] then some (.boolean true, rest)
  else if word = ['f', 'a', 'l', 's', 'e'] then some (.boolean false, rest)
  else if isInteger word then
    if fitsInteger word then some (.number (.ofList word), rest) else none
  else if isFloat word then if fitsFloat word then some (.number (.ofList word), rest) else none
  else if isMoment word then some (.moment (.ofList word), rest)
  else none

mutual
def value? : (fuel depth : Nat) → List Char → Option (Toml × List Char)
  | 0, _, _ => none
  | fuel + 1, depth, s =>
    match depth, s with
    | 0, '[' :: _ => none
    | 0, '\x7b' :: _ => none
    | depth + 1, '[' :: rest =>
      (items? fuel depth rest).map fun (items, rest) => (.array false items, rest)
    | depth + 1, '\x7b' :: rest =>
      (members? fuel depth [] rest).map fun (entries, rest) => (.table .braces entries, rest)
    | _, '"' :: _ => (text? s).map fun (text, rest) => (.string text, rest)
    | _, '\'' :: _ => (text? s).map fun (text, rest) => (.string text, rest)
    | _, s => scalar? s

def items? : (fuel depth : Nat) → List Char → Option (List Toml × List Char)
  | 0, _, _ => none
  | fuel + 1, depth, s =>
    match dropLines s.length s with
    | ']' :: rest => some ([], rest)
    | s =>
      match value? fuel depth s with
      | none => none
      | some (item, rest) =>
        match dropLines rest.length rest with
        | ',' :: rest => (items? fuel depth rest).map fun (items, rest) => (item :: items, rest)
        | ']' :: rest => some ([item], rest)
        | _ => none

/-- Read the members of a table in braces up to its closing brace. -/
def members? : (fuel depth : Nat) → Entries → List Char → Option (Entries × List Char)
  | 0, _, _, _ => none
  | fuel + 1, depth, entries, s =>
    match dropLines s.length s with
    | '\x7d' :: rest => some (entries, rest)
    | s =>
      match key? s with
      | some (keys, '=' :: rest) =>
        match value? fuel depth (dropSpace rest) with
        | none => none
        | some (value, rest) =>
          match setDotted value keys entries with
          | none => none
          | some entries =>
            match dropLines rest.length rest with
            | ',' :: rest => members? fuel depth entries rest
            | '\x7d' :: rest => some (entries, rest)
            | _ => none
      | _ => none
end

/-! ### Documents -/

/-- Change the last of some keys after going along the others. -/
def changeLast (change : String → Entries → Option Entries) (keys : List String)
    (root : Entries) : Option Entries :=
  match keys.reverse with
  | key :: before => changeAt (change key) before.reverse root
  | [] => none

/-- Read what a line says: a header or a key with its value. The table that is open is given by its
path, and the table that is open afterwards with the document. -/
def line? (path : List String) (root : Entries) (s : List Char) :
    Option (List String × Entries × List Char) :=
  match s with
  | '[' :: '[' :: rest => do
    let (keys, rest) ← key? (dropSpace rest)
    let ']' :: ']' :: rest := rest | none
    let root ← changeLast openItem keys root
    some (keys, root, rest)
  | '[' :: rest => do
    let (keys, rest) ← key? (dropSpace rest)
    let ']' :: rest := rest | none
    let root ← changeLast openTable keys root
    some (keys, root, rest)
  | s => do
    let (keys, rest) ← key? s
    let '=' :: rest := rest | none
    let (value, rest) ← value? s.length depthLimit (dropSpace rest)
    let root ← changeAt (setDotted value keys) path root
    some (path, root, rest)

def lines : (fuel : Nat) → List String → Entries → List Char → Option Entries
  | 0, _, _, _ => none
  | fuel + 1, path, root, s =>
    match dropLines s.length s with
    | [] => some root
    | s => do
      let (path, root, rest) ← line? path root s
      match dropComment (dropSpace rest) with
      | [] => some root
      | rest => do
        let rest ← lineEnd? rest
        lines fuel path root rest

def parse? (s : String) : Option Entries :=
  let s := match s.toList with
    | '\ufeff' :: rest => rest
    | s => s
  lines (s.length + 1) [] [] s

end SqlCompose.Toml
