/-!
# Decimal digits

Numerals over the ten basic digits: what a run of digits denotes, numerals with a sign, and numerals
padded with zeros to a width.
-/

namespace SqlCompose

namespace Digits

def digitValue (c : Char) : Nat := c.toNat - '0'.toNat

def value (digits : List Char) : Nat := digits.foldl (fun n c => 10 * n + digitValue c) 0

/-- Read a non-empty run of digits. -/
def natural? (s : List Char) : Option Nat :=
  if !s.isEmpty && s.all Char.isDigit then some (value s) else none

/-- Read a run of digits that may have a sign before it. -/
def integer? : List Char → Option Int
  | '-' :: rest => (natural? rest).map fun n => -(n : Int)
  | '+' :: rest => (natural? rest).map Int.ofNat
  | s => (natural? s).map Int.ofNat

/-- A numeral of at least `width` digits. -/
def padded (width n : Nat) : String :=
  let digits := toString n
  String.ofList (List.replicate (width - digits.length) '0') ++ digits

/-- A numeral filled with zeros to `width` characters, the minus sign counted. -/
def paddedInt (width : Nat) (i : Int) : String :=
  if i < 0 then "-" ++ padded (width - 1) i.natAbs else padded width i.natAbs

end Digits

/-- The 64-bit signed integer with this value, if there is one. -/
def int64? (i : Int) : Option Int64 :=
  if Int64.minValue.toInt ≤ i ∧ i ≤ Int64.maxValue.toInt then some (Int64.ofInt i) else none

/-- The 64-bit signed integer nearest to this value. -/
def clampInt64 (i : Int) : Int64 :=
  Int64.ofInt (max Int64.minValue.toInt (min i Int64.maxValue.toInt))

end SqlCompose
