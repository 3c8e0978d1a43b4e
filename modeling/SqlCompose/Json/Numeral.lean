import SqlCompose.Number.Digits
import SqlCompose.Json.Basic

/-!
# Json numerals

A numeral without fraction and exponent that fits 64 bits is an integer; minus zero and every other
numeral is a double.

The double is formed in two roundings. The digits are gathered into a 64-bit coefficient; whole
digits that no longer fit only raise the power of ten, digits of the fraction that no longer fit
are dropped. The coefficient is rounded to a double, and then multiplied or divided by the power of
ten. A numeral too large for a double is an error.
-/

namespace SqlCompose.Json

/-- A numeral as it is written: sign, digits before and after the point, and exponent. -/
structure Numeral where
  negative : Bool
  whole : List Char
  part : List Char
  exponent : Option (Bool × List Char)

namespace Numeral

/-- The exclusive bound of the coefficient. -/
def coefficientBound : Nat := Nat.pow 2 64

/-- Append digits while the coefficient fits; also the digits that were left. -/
def gather (coefficient : Nat) : List Char → Nat × List Char
  | [] => (coefficient, [])
  | c :: rest =>
    let next := coefficient * 10 + Digits.digitValue c
    if next < coefficientBound then gather next rest else (coefficient, c :: rest)

/-- Divide by `10 ^ 308` until the power of ten that is left is no larger; zero stays zero. -/
def scaleDown : Nat → Double → Nat → Option Double
  | 0, x, power => some (x.div (Double.ofDecimal false 1 power))
  | rounds + 1, x, power =>
    if power ≤ 308 then some (x.div (Double.ofDecimal false 1 power))
    else if x.isZero then some x
    else scaleDown rounds (x.div (Double.ofDecimal false 1 308)) (power - 308)

/-- The double of a coefficient and a power of ten, unless it is too large. -/
def scale? (coefficient : Nat) (power : Int) : Option Double :=
  let x := Double.ofInt coefficient
  if power < 0 then scaleDown power.natAbs x power.natAbs
  else if power ≤ 308 then
    let y := x.mul (Double.ofDecimal false 1 power)
    if y.isFinite then some y else none
  else if coefficient = 0 then some x
  else none

/-- The largest exponent that is read as a number. -/
def exponentBound : Nat := 0x7FFFFFFF

/-- The double without its sign. -/
def magnitude? (n : Numeral) : Option Double :=
  let (whole, left) := gather 0 n.whole
  let (coefficient, dropped) := gather whole n.part
  let power : Int := left.length - (n.part.length - dropped.length : Nat)
  match n.exponent with
  | none => scale? coefficient power
  | some (down, digits) =>
    let exponent := Digits.value digits
    if exponentBound < exponent then
      if coefficient = 0 ∨ down then some (Double.zero false) else none
    else scale? coefficient (if down then power - exponent else power + exponent)

/-- The number a numeral denotes, unless it is too large. -/
def number? (n : Numeral) : Option Number :=
  let integer : Int := Digits.value n.whole
  let signed := if n.negative then -integer else integer
  let isInteger := n.part.isEmpty && n.exponent.isNone &&
    (if n.negative then signed != 0 && (int64? signed).isSome else integer < coefficientBound)
  if isInteger then some (.integer signed)
  else n.magnitude?.map fun x => .double (if n.negative then x.neg else x)

/-- A non-empty run of digits and the rest. -/
def digits? (s : List Char) : Option (List Char × List Char) :=
  let (digits, rest) := s.span Char.isDigit
  if digits.isEmpty then none else some (digits, rest)

/-- Read the digits before the point: a zero stands alone. -/
def whole? : List Char → Option (List Char × List Char)
  | '0' :: rest => some (['0'], rest)
  | s => digits? s

/-- Read a point and the digits after it, if there is a point. -/
def part? : List Char → Option (List Char × List Char)
  | '.' :: rest => digits? rest
  | s => some ([], s)

/-- Read the exponent with its sign, if there is one. -/
def exponent? : List Char → Option (Option (Bool × List Char) × List Char)
  | c :: rest =>
    if c = 'e' ∨ c = 'E' then
      let (down, rest) := match rest with
        | '-' :: rest => (true, rest)
        | '+' :: rest => (false, rest)
        | rest => (false, rest)
      (digits? rest).map fun (digits, rest) => (some (down, digits), rest)
    else some (none, c :: rest)
  | [] => some (none, [])

/-- Read a numeral at the start of a text. -/
def read? (s : List Char) : Option (Numeral × List Char) := do
  let (negative, s) := match s with
    | '-' :: rest => (true, rest)
    | s => (false, s)
  let (whole, s) ← whole? s
  let (part, s) ← part? s
  let (exponent, s) ← exponent? s
  some ({ negative, whole, part, exponent }, s)

end Numeral

end SqlCompose.Json
