import SqlCompose.Text.Blank
import SqlCompose.Calendar.DateTime

/-!
# Reading dates and times

A date is three numbers with hyphens between them. A point in time is a date, a `T`, and three
numbers with colons between them, with an optional fraction of the second. Blanks may stand before
each number, before each mark between the numbers and at the end, but not around the fraction.
-/

namespace SqlCompose.Calendar

/-- Read a number of at most `most` digits, after any blanks. -/
def field? (most : Nat) (s : List Char) : Option (Nat × List Char) :=
  let s := Chars.trimStart s
  let digits := (s.take most).takeWhile Char.isDigit
  if digits.isEmpty then none else some (Digits.value digits, s.drop digits.length)

/-- Read a number of any length. -/
def run? (s : List Char) : Option (Nat × List Char) :=
  let (digits, rest) := s.span Char.isDigit
  if digits.isEmpty then none else some (Digits.value digits, rest)

/-- Read a year, after any blanks: at most four digits, or any number of them after a sign. -/
def year? (s : List Char) : Option (Int × List Char) :=
  match Chars.trimStart s with
  | '-' :: rest => (run? rest).map fun (n, rest) => (-(n : Int), rest)
  | '+' :: rest => (run? rest).map fun (n, rest) => ((n : Int), rest)
  | s => (field? 4 s).map fun (n, rest) => ((n : Int), rest)

/-- Read one given character, after any blanks. -/
def mark? (c : Char) (s : List Char) : Option (List Char) :=
  match Chars.trimStart s with
  | d :: rest => if d = c then some rest else none
  | [] => none

/-- Read the fraction of a second, in nanoseconds; of its digits the first nine count. -/
def fraction? : List Char → Option (Nat × List Char)
  | '.' :: rest =>
    let (digits, rest) := rest.span Char.isDigit
    if digits.isEmpty then none
    else
      let counted := digits.take 9
      some (Digits.value counted * Nat.pow 10 (9 - counted.length), rest)
  | s => some (0, s)

/-- Only blanks are left. -/
def ends (s : List Char) : Bool := s.all isBlank

/-- Read a year, a month and a day, which need not make a date. -/
def yearMonthDay? (s : List Char) : Option (Int × Nat × Nat × List Char) := do
  let (year, s) ← year? s
  let s ← mark? '-' s
  let (month, s) ← field? 2 s
  let s ← mark? '-' s
  let (day, s) ← field? 2 s
  some (year, month, day, s)

def date? (s : String) : Option Date := do
  let (year, month, day, s) ← yearMonthDay? s.toList
  if ends s then Date.of? year month day else none

def dateTime? (s : String) : Option DateTime := do
  let (year, month, day, s) ← yearMonthDay? s.toList
  let s ← mark? 'T' s
  let (hour, s) ← field? 2 s
  let s ← mark? ':' s
  let (minute, s) ← field? 2 s
  let s ← mark? ':' s
  let (second, s) ← field? 2 s
  let (nanosecond, s) ← fraction? s
  let date ← Date.of? year month day
  let time ← TimeOfDay.of? hour minute second nanosecond
  if ends s then some ⟨date, time⟩ else none

end SqlCompose.Calendar
