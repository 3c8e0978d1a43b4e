import SqlCompose.Number.Digits
import SqlCompose.Number.Double
import SqlCompose.Number.Shortest

/-!
# The text of a double

Two forms are written. The plain form never has an exponent and writes whole numbers without a
point; of two equally near shortest decimals it takes the upper one. The compact form always has a
point or an exponent, and is positional from `0.00001` up to below `10 ^ 16`; there a tie goes to
the even digit.

One reader takes both forms, the signs `+` and `-`, and the names of the numbers that are not finite
in any letter case.
-/

namespace SqlCompose.Double

/-- The digits with the point set among them, without an exponent. -/
def positional (d : Decimal) : List Char :=
  if d.point ≤ 0 then '0' :: '.' :: (List.replicate (-d.point).toNat '0' ++ d.digits)
  else
    let whole := d.point.toNat
    if whole < d.digits.length then d.digits.take whole ++ '.' :: d.digits.drop whole
    else d.digits ++ List.replicate (whole - d.digits.length) '0'

/-- The digits with the point after the first of them, and an exponent. -/
def scientific (d : Decimal) : List Char :=
  let mantissa := match d.digits with
    | first :: second :: rest => first :: '.' :: second :: rest
    | digits => digits
  let exponent := d.point - 1
  mantissa ++ 'e' :: (if exponent < 0 then '-' else '+') :: (toString exponent.natAbs).toList

/-- A minus sign before the text of a negative number. -/
def signed (negative : Bool) (text : List Char) : String :=
  .ofList (if negative then '-' :: text else text)

/-- The plain form. -/
def plain : Double → String
  | .nan => "NaN"
  | .infinite negative => signed negative ['i', 'n', 'f']
  | .finite negative significand exponent _ =>
    if significand = 0 then signed negative ['0']
    else signed negative (positional (shortest .up significand exponent))

/-- The compact form of a finite double. -/
def compact? : Double → Option String
  | .finite negative significand exponent _ =>
    if significand = 0 then some (signed negative ['0', '.', '0'])
    else
      let d := shortest .even significand exponent
      let text :=
        if d.point < -4 ∨ 16 < d.point then scientific d
        else if d.digits.length ≤ d.point then positional d ++ ['.', '0']
        else positional d
      some (signed negative text)
  | _ => none

/-- Read digits with an optional point and an optional exponent, as digits and a power of ten. -/
def readDecimal? (s : List Char) : Option (Nat × Int) :=
  let (whole, rest) := s.span Char.isDigit
  let (part, rest) := match rest with
    | '.' :: rest => rest.span Char.isDigit
    | rest => ([], rest)
  let exponent? : Option Int := match rest with
    | [] => some 0
    | c :: rest => if c = 'e' ∨ c = 'E' then Digits.integer? rest else none
  if whole.isEmpty && part.isEmpty then none
  else exponent?.map fun exponent => (Digits.value (whole ++ part), exponent - part.length)

/-- Read a number without its sign. -/
def readMagnitude? (negative : Bool) (s : List Char) : Option Double :=
  let name := String.ofList (s.map Char.toLower)
  if name = "nan" then some .nan
  else if name = "inf" ∨ name = "infinity" then some (.infinite negative)
  else (readDecimal? s).map fun (digits, exponent) => ofDecimal negative digits exponent

/-- Read a double; the nearest one is taken. -/
def ofText? (s : String) : Option Double :=
  match s.toList with
  | '-' :: rest => readMagnitude? true rest
  | '+' :: rest => readMagnitude? false rest
  | chars => readMagnitude? false chars

end SqlCompose.Double
