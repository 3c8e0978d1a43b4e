import SqlCompose.Calendar.DateTime
import SqlCompose.Number.DoubleText

/-!
# Numbers and points in time of configuration documents

The spellings that a TOML document admits for integers, floats, dates and times. Underscores may
stand between two digits; a decimal integer has no leading zero. An integer has 128 bits at most,
and a float must not be too large for a double.
-/

namespace SqlCompose.Toml

/-- Whether a text is digits of some base with underscores between digits only. -/
def isDigitRun (isDigit : Char → Bool) : List Char → Bool
  | [] => false
  | [c] => isDigit c
  | c :: '_' :: rest => isDigit c && isDigitRun isDigit rest
  | c :: rest => isDigit c && isDigitRun isDigit rest

def isHexDigit (c : Char) : Bool := c.isDigit || ('a' ≤ c && c ≤ 'f') || ('A' ≤ c && c ≤ 'F')

def isUnsigned : List Char → Bool
  | ['0'] => true
  | '0' :: _ => false
  | s => isDigitRun Char.isDigit s

/-- A text without a sign at its start. -/
def dropSign : List Char → List Char
  | '+' :: rest => rest
  | '-' :: rest => rest
  | s => s

def isInteger : List Char → Bool
  | '0' :: 'x' :: rest => isDigitRun isHexDigit rest
  | '0' :: 'o' :: rest => isDigitRun (fun c => '0' ≤ c && c ≤ '7') rest
  | '0' :: 'b' :: rest => isDigitRun (fun c => c == '0' || c == '1') rest
  | s => isUnsigned (dropSign s)

/-- The number that digits of a base denote. -/
def baseValue (base : Nat) (digits : List Char) : Nat :=
  digits.foldl (fun n c =>
    if c.isDigit then base * n + (c.toNat - '0'.toNat)
    else base * n + (c.toLower.toNat - 'a'.toNat + 10)) 0

/-- Whether an integer is small enough. -/
def fitsInteger (s : List Char) : Bool :=
  let limit := Nat.pow 2 128
  match s.filter (· != '_') with
  | '0' :: 'x' :: rest => baseValue 16 rest < limit
  | '0' :: 'o' :: rest => baseValue 8 rest < limit
  | '0' :: 'b' :: rest => baseValue 2 rest < limit
  | '-' :: rest => baseValue 10 rest ≤ limit / 2
  | '+' :: rest => baseValue 10 rest < limit
  | s => baseValue 10 s < limit

/-- Whether a text is an exponent, or missing. -/
def isExponent : List Char → Bool
  | [] => true
  | c :: rest => (c == 'e' || c == 'E') && isDigitRun Char.isDigit (dropSign rest)

def isFloat (s : List Char) : Bool :=
  let s := dropSign s
  let isPart (c : Char) : Bool := c.isDigit || c == '_'
  let (whole, rest) := s.span isPart
  s == ['i', 'n', 'f'] || s == ['n', 'a', 'n'] ||
    (isUnsigned whole &&
      match rest with
      | '.' :: rest =>
        let (part, rest) := rest.span isPart
        isDigitRun Char.isDigit part && isExponent rest
      | rest => !rest.isEmpty && isExponent rest)

/-- Whether a float is small enough. -/
def fitsFloat (s : List Char) : Bool :=
  s.contains 'i' || s.contains 'n' ||
    (Double.ofText? (.ofList (s.filter (· != '_')))).any Double.isFinite

/-- The number that a run of exactly `n` digits denotes. -/
def fixed? (n : Nat) (s : List Char) : Option (Nat × List Char) :=
  let digits := s.take n
  if digits.length = n ∧ digits.all Char.isDigit then some (Digits.value digits, s.drop n) else none

/-- Read a date of four, two and two digits. -/
def date? (s : List Char) : Option (List Char) := do
  let (year, s) ← fixed? 4 s
  let '-' :: s := s | none
  let (month, s) ← fixed? 2 s
  let '-' :: s := s | none
  let (day, s) ← fixed? 2 s
  if Date.IsValid year month day then some s else none

/-- Read a fraction of a second, if there is one. -/
def fraction? : List Char → Option (List Char)
  | '.' :: rest =>
    let (digits, rest) := rest.span Char.isDigit
    if digits.isEmpty then none else some rest
  | s => some s

/-- Read a time; the seconds may be missing. -/
def time? (s : List Char) : Option (List Char) := do
  let (hour, s) ← fixed? 2 s
  let ':' :: s := s | none
  let (minute, s) ← fixed? 2 s
  if 24 ≤ hour ∨ 60 ≤ minute then none
  else match s with
    | ':' :: s => do
      let (second, s) ← fixed? 2 s
      if 60 < second then none else fraction? s
    | s => some s

/-- Whether a text is an offset from universal time, or missing. -/
def isOffset : List Char → Bool
  | [] => true
  | ['Z'] => true
  | ['z'] => true
  | c :: rest =>
    (c == '+' || c == '-') &&
      match fixed? 2 rest with
      | some (hour, ':' :: rest) =>
        match fixed? 2 rest with
        | some (minute, []) => decide (hour < 24) && decide (minute < 60)
        | _ => false
      | _ => false

/-- Whether a text is a date, a time, or both with an optional offset. -/
def isMoment (s : List Char) : Bool :=
  match date? s with
  | some [] => true
  | some (c :: rest) =>
    (c == 'T' || c == 't' || c == ' ') && (time? rest).any isOffset
  | none => (time? s).any List.isEmpty

end SqlCompose.Toml
