import SqlCompose.Json.Numeral

/-!
# Json tokens

A document is a sequence of marks, names, numbers and texts with white space between them. In a
text a backslash starts an escape; a character beyond sixteen bits is escaped as a pair of
surrogates, and a surrogate on its own is an error, as is a control character.
-/

namespace SqlCompose.Json

/-- A token of a document. -/
inductive Token
  | openBrace
  | closeBrace
  | openBracket
  | closeBracket
  | comma
  | colon
  | null
  | bool (b : Bool)
  | number (n : Number)
  | string (s : String)

namespace Token

def hexValue? (c : Char) : Option Nat :=
  if c.isDigit then some (c.toNat - '0'.toNat)
  else if 'a' ≤ c ∧ c ≤ 'f' then some (c.toNat - 'a'.toNat + 10)
  else if 'A' ≤ c ∧ c ≤ 'F' then some (c.toNat - 'A'.toNat + 10)
  else none

/-- The sixteen-bit unit that four hexadecimal digits denote. -/
def unit? (a b c d : Char) : Option Nat := do
  let a ← hexValue? a
  let b ← hexValue? b
  let c ← hexValue? c
  let d ← hexValue? d
  some (((a * 16 + b) * 16 + c) * 16 + d)

/-- The first unit of a surrogate pair. -/
def isHighSurrogate (unit : Nat) : Bool := 0xD800 ≤ unit && unit ≤ 0xDBFF

/-- The second unit of a surrogate pair. -/
def isLowSurrogate (unit : Nat) : Bool := 0xDC00 ≤ unit && unit ≤ 0xDFFF

def pairedChar (high low : Nat) : Char :=
  Char.ofNat (0x10000 + (high - 0xD800) * 0x400 + (low - 0xDC00))

/-- The character that one letter after a backslash stands for. -/
def escapedChar? : Char → Option Char
  | '"' => some '"'
  | '\\' => some '\\'
  | '/' => some '/'
  | 'b' => some '\x08'
  | 'f' => some '\x0c'
  | 'n' => some '\n'
  | 'r' => some '\r'
  | 't' => some '\t'
  | _ => none

/-- Read the rest of a text after its opening quote, up to and with the closing one. -/
def text? : List Char → Option (List Char × List Char)
  | [] => none
  | '"' :: rest => some ([], rest)
  | '\\' :: 'u' :: a :: b :: c :: d :: rest =>
    match unit? a b c d with
    | none => none
    | some unit =>
      if isHighSurrogate unit then
        match rest with
        | '\\' :: 'u' :: e :: f :: g :: h :: rest =>
          match unit? e f g h with
          | some low =>
            if isLowSurrogate low then
              (text? rest).map fun (s, rest) => (pairedChar unit low :: s, rest)
            else none
          | none => none
        | _ => none
      else if isLowSurrogate unit then none
      else (text? rest).map fun (s, rest) => (Char.ofNat unit :: s, rest)
  | '\\' :: c :: rest =>
    match escapedChar? c with
    | some c => (text? rest).map fun (s, rest) => (c :: s, rest)
    | none => none
  | c :: rest =>
    if c.toNat < 32 ∨ c = '\\' then none
    else (text? rest).map fun (s, rest) => (c :: s, rest)
termination_by structural s => s

/-- White space between tokens. -/
def isSpace (c : Char) : Bool := c == ' ' || c == '\t' || c == '\n' || c == '\r'

/-- Read the token at the start of a text that does not start with white space. -/
def read? : List Char → Option (Token × List Char)
  | '\x7b' :: rest => some (.openBrace, rest)
  | '\x7d' :: rest => some (.closeBrace, rest)
  | '[' :: rest => some (.openBracket, rest)
  | ']' :: rest => some (.closeBracket, rest)
  | ',' :: rest => some (.comma, rest)
  | ':' :: rest => some (.colon, rest)
  | '"' :: rest => (text? rest).map fun (s, rest) => (.string (.ofList s), rest)
  | 'n' :: 'u' :: 'l' :: 'l' :: rest => some (.null, rest)
  | 't' :: 'r' :: 'u' :: 'e' :: rest => some (.bool true, rest)
  | 'f' :: 'a' :: 'l' :: 's' :: 'e' :: rest => some (.bool false, rest)
  | s => do
    let (numeral, rest) ← Numeral.read? s
    let n ← numeral.number?
    some (.number n, rest)

/-- Read at most `count` tokens, up to the end of the text. -/
def listOfLength? : Nat → List Char → Option (List Token)
  | count, s =>
    match count, s.dropWhile isSpace with
    | _, [] => some []
    | 0, _ :: _ => none
    | count + 1, s => do
      let (token, rest) ← read? s
      let tokens ← listOfLength? count rest
      some (token :: tokens)

/-- The tokens of a text. No text has more tokens than characters. -/
def list? (s : String) : Option (List Token) := listOfLength? s.length s.toList

end Token

end SqlCompose.Json
