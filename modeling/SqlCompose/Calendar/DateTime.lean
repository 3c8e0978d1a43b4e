import SqlCompose.Calendar.Date

/-!
# Times of day and points in time

A time of day counts to the nanosecond. A leap second may follow any second: it is counted by
nanoseconds beyond the billionth of the second before it, and it is shown as the next second. So the
leap second at the end of a minute is shown as second 60, and any other like the second that comes
after it. Two texts are written: the statement form, a blank between date and time and whole
seconds, and the interchange form, a `T` between them and the fraction of the second where it is not
zero.
-/

namespace SqlCompose

structure TimeOfDay where
  hour : Nat
  minute : Nat
  second : Nat
  /-- The nanoseconds since the second began; a billion and more of them are a leap second. -/
  nanosecond : Nat
  valid : hour < 24 ∧ minute < 60 ∧ second < 60 ∧ nanosecond < 2000000000
  deriving DecidableEq

namespace TimeOfDay

/-- The time lies in a leap second. -/
def IsLeap (t : TimeOfDay) : Prop := 1000000000 ≤ t.nanosecond

instance : DecidablePred IsLeap := fun t => inferInstanceAs (Decidable (1000000000 ≤ t.nanosecond))

/-- The second that is shown: a leap second is shown as the next one. -/
def shownSecond (t : TimeOfDay) : Nat := t.second + t.nanosecond / 1000000000

/-- The nanoseconds that are shown with the second. -/
def shownNanosecond (t : TimeOfDay) : Nat := t.nanosecond % 1000000000

/-- The time of day that is read from these numbers, if there is one. Second 60 is the leap second
after second 59 of any minute. -/
def of? (hour minute second nanosecond : Nat) : Option TimeOfDay :=
  if h : hour < 24 ∧ minute < 60 ∧ second ≤ 60 ∧ nanosecond < 1000000000 then
    if hleap : second = 60 then
      some ⟨hour, minute, 59, nanosecond + 1000000000, by omega⟩
    else some ⟨hour, minute, second, nanosecond, by omega⟩
  else none

/-- Hour, minute and second with colons between them. -/
def text (t : TimeOfDay) : String :=
  Digits.padded 2 t.hour ++ ":" ++ Digits.padded 2 t.minute ++ ":" ++
    Digits.padded 2 t.shownSecond

/-- The fraction of the second: nothing, or a point and the fewest of 3, 6 or 9 digits that hold
it. -/
def fractionText (t : TimeOfDay) : String :=
  let n := t.shownNanosecond
  if n = 0 then ""
  else if n % 1000000 = 0 then "." ++ Digits.padded 3 (n / 1000000)
  else if n % 1000 = 0 then "." ++ Digits.padded 6 (n / 1000)
  else "." ++ Digits.padded 9 n

end TimeOfDay

/-- A date and a time of day, of no particular zone. -/
structure DateTime where
  date : Date
  time : TimeOfDay
  deriving DecidableEq

namespace DateTime

/-- The form used in statements, without the fraction of the second. -/
def text (t : DateTime) : String := t.date.text ++ " " ++ t.time.text

/-- The form used for interchange. -/
def isoText (t : DateTime) : String :=
  t.date.text ++ "T" ++ t.time.text ++ t.time.fractionText

end DateTime

end SqlCompose
