import SqlCompose.Number.Digits

/-!
# Calendar dates

Days of the proleptic Gregorian calendar in the years -262143 to 262142. A date is written
year-month-day; a year outside 0 to 9999 is written with its sign.
-/

namespace SqlCompose

namespace Date

/-- Whether February of this year has a twenty-ninth day. -/
def isLeapYear (year : Int) : Bool := year % 4 == 0 && (year % 100 != 0 || year % 400 == 0)

/-- The number of days of a month, counted from one; no other month has any. -/
def daysInMonth (year : Int) (month : Nat) : Nat :=
  match month with
  | 1 | 3 | 5 | 7 | 8 | 10 | 12 => 31
  | 4 | 6 | 9 | 11 => 30
  | 2 => if isLeapYear year then 29 else 28
  | _ => 0

/-- The three numbers name a day of the calendar. -/
def IsValid (year : Int) (month day : Nat) : Prop :=
  (-262143 ≤ year ∧ year ≤ 262142) ∧ 1 ≤ day ∧ day ≤ daysInMonth year month

instance (year : Int) (month day : Nat) : Decidable (IsValid year month day) :=
  inferInstanceAs (Decidable ((_ ∧ _) ∧ _ ∧ _))

end Date

/-- A day of the calendar. -/
structure Date where
  year : Int
  month : Nat
  day : Nat
  valid : Date.IsValid year month day
  deriving DecidableEq

namespace Date

/-- The day with these numbers, if there is one. -/
def of? (year : Int) (month day : Nat) : Option Date :=
  if h : IsValid year month day then some ⟨year, month, day, h⟩ else none

/-- At least four digits, with a sign outside the years 0 to 9999. -/
def yearText (year : Int) : String :=
  if year < 0 then "-" ++ Digits.padded 4 year.natAbs
  else if 9999 < year then "+" ++ Digits.padded 4 year.natAbs
  else Digits.padded 4 year.natAbs

/-- Year, month and day with hyphens between them. -/
def text (d : Date) : String :=
  yearText d.year ++ "-" ++ Digits.padded 2 d.month ++ "-" ++ Digits.padded 2 d.day

end Date

end SqlCompose
