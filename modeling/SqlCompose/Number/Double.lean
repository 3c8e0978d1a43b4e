/-!
# Binary floating-point numbers

A finite `Double` is a sign, a significand below `2 ^ 53` and an exponent, and denotes
`± significand * 2 ^ exponent / 2 ^ 1074`. The significand is as large as it can be, so two finite
doubles of one sign denote the same number only if they are equal.

Every operation forms its exact result as a ratio and rounds it once, to the nearest double and to
the even significand when two are equally near.
-/

namespace SqlCompose

/-- The significand is full, or the exponent is the least one. -/
def Double.IsCanonical (significand exponent : Nat) : Prop :=
  significand < Nat.pow 2 53 ∧ (Nat.pow 2 52 ≤ significand ∨ exponent = 0) ∧ exponent ≤ 2045

instance (significand exponent : Nat) : Decidable (Double.IsCanonical significand exponent) :=
  inferInstanceAs (Decidable (_ ∧ _ ∧ _))

/-- A binary floating-point number of 64 bits; all that is not a number is one value. -/
inductive Double
  | nan
  | infinite (negative : Bool)
  | finite (negative : Bool) (significand exponent : Nat)
      (canonical : Double.IsCanonical significand exponent)
  deriving DecidableEq

namespace Double

/-- Zero with a sign. -/
def zero (negative : Bool) : Double := .finite negative 0 0 (by decide)

instance : Inhabited Double := ⟨zero false⟩

/-- A finite double, or an infinity when the exponent is beyond the largest one. -/
def ofParts (negative : Bool) (significand exponent : Nat) : Double :=
  if h : IsCanonical significand exponent then .finite negative significand exponent h
  else .infinite negative

/-- The natural number nearest to `num / den`, the even one of two. -/
def roundHalfEven (num den : Nat) : Nat :=
  let q := num / den
  let r := num % den
  if 2 * r < den ∨ (2 * r = den ∧ q % 2 = 0) then q else q + 1

/-- The number of binary digits. -/
def bitLength (n : Nat) : Nat := if n = 0 then 0 else n.log2 + 1

/-- The double nearest to `± num / den`, for a positive `den`. -/
def ofRatio (negative : Bool) (num den : Nat) : Double :=
  let scaled := num * Nat.pow 2 1074
  let exponent := bitLength (scaled / den) - 53
  let significand := roundHalfEven scaled (den * Nat.pow 2 exponent)
  if significand = Nat.pow 2 53 then ofParts negative (Nat.pow 2 52) (exponent + 1)
  else ofParts negative significand exponent

/-- The double nearest to an integer. -/
def ofInt (i : Int) : Double := ofRatio (decide (i < 0)) i.natAbs 1

/-- The double nearest to `± digits * 10 ^ exponent`. Beyond four hundred places from the point
nothing but zero or an infinity is near, and the power is not formed. -/
def ofDecimal (negative : Bool) (digits : Nat) (exponent : Int) : Double :=
  let places : Int := (toString digits).length + exponent
  if digits = 0 ∨ places < -400 then zero negative
  else if 400 < places then .infinite negative
  else if 0 ≤ exponent then ofRatio negative (digits * Nat.pow 10 exponent.toNat) 1
  else ofRatio negative digits (Nat.pow 10 (-exponent).toNat)

/-- Whether a double denotes a number. -/
def isFinite : Double → Bool
  | .finite .. => true
  | _ => false

def isZero : Double → Bool
  | .finite _ significand _ _ => significand == 0
  | _ => false

def neg : Double → Double
  | .nan => .nan
  | .infinite negative => .infinite (!negative)
  | .finite negative significand exponent h => .finite (!negative) significand exponent h

def mul : Double → Double → Double
  | .nan, _ => .nan
  | _, .nan => .nan
  | .infinite s, .infinite t => .infinite (s != t)
  | .infinite s, .finite t m _ _ => if m = 0 then .nan else .infinite (s != t)
  | .finite s m _ _, .infinite t => if m = 0 then .nan else .infinite (s != t)
  | .finite s m e _, .finite t n f _ =>
    ofRatio (s != t) (m * n * Nat.pow 2 (e + f)) (Nat.pow 2 2148)

def div : Double → Double → Double
  | .nan, _ => .nan
  | _, .nan => .nan
  | .infinite _, .infinite _ => .nan
  | .infinite s, .finite t _ _ _ => .infinite (s != t)
  | .finite s _ _ _, .infinite t => zero (s != t)
  | .finite s m e _, .finite t n f _ =>
    if n = 0 then if m = 0 then .nan else .infinite (s != t)
    else ofRatio (s != t) (m * Nat.pow 2 e) (n * Nat.pow 2 f)

/-- The integer a double denotes, if it denotes one. -/
def toInt? : Double → Option Int
  | .finite negative significand exponent _ =>
    let scaled := significand * Nat.pow 2 exponent
    if scaled % Nat.pow 2 1074 = 0 then
      let n : Int := (scaled / Nat.pow 2 1074 : Nat)
      some (if negative then -n else n)
    else none
  | _ => none

end Double

end SqlCompose
