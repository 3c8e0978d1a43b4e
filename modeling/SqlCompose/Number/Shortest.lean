
/-!
# Shortest decimals

The shortest decimal of a double is the decimal of fewest digits that rounds to it. Of the decimals
of that length it is the one nearest to the double; where two are equally near, the format that asks
says which of them it takes.
-/

namespace SqlCompose

/-- A positive decimal `0.d₁d₂d₃… * 10 ^ point`; the last digit is not a zero. -/
structure Decimal where
  digits : List Char
  point : Int

/-- Which of two equally near decimals is taken. -/
inductive Tie
  | up
  | even

namespace Double

/-- The exponent of the power of ten at or below the positive `num / den`. -/
def decimalExponent (num den : Nat) : Int :=
  if den ≤ num then (toString (num / den)).length - 1 else -(toString (den / num)).length

/-- The decimal of `n` digits for the double `num / den`, if one lies among the numbers that round
to it. They reach from `low / den` to `high / den`, and the two ends belong to them if `closed`. -/
def decimalOfLength (tie : Tie) (closed : Bool) (num low high den n : Nat) : Option Decimal :=
  let grid := decimalExponent num den - n + 1
  let up := Nat.pow 10 (-grid).toNat
  let unit := den * Nat.pow 10 grid.toNat
  let below := num * up / unit
  let rest := num * up % unit
  let hitsBelow : Bool := low * up < below * unit || (closed && low * up == below * unit)
  let hitsAbove : Bool :=
    (below + 1) * unit < high * up || (closed && (below + 1) * unit == high * up)
  let nearerAbove : Bool := match tie with
    | .up => unit ≤ 2 * rest
    | .even => unit < 2 * rest || (unit == 2 * rest && below % 2 == 1)
  let chosen : Option Nat :=
    if hitsAbove && (!hitsBelow || nearerAbove) then some (below + 1)
    else if hitsBelow then some below
    else none
  chosen.map fun d =>
    let text := (toString d).toList
    { digits := (text.reverse.dropWhile (· == '0')).reverse, point := text.length + grid }

/-- The shortest decimal of `significand * 2 ^ exponent / 2 ^ 1074`. Seventeen digits always
suffice. Below a power of two the doubles stand twice as close as above it. -/
def shortest (tie : Tie) (significand exponent : Nat) : Decimal :=
  let below := if significand = Nat.pow 2 52 ∧ 0 < exponent then 1 else 2
  let num := 4 * significand * Nat.pow 2 exponent
  let low := (4 * significand - below) * Nat.pow 2 exponent
  let high := (4 * significand + 2) * Nat.pow 2 exponent
  let found := (List.range 17).findSome? fun n =>
    decimalOfLength tie (significand % 2 = 0) num low high (Nat.pow 2 1076) (n + 1)
  found.getD { digits := ['0'], point := 0 }

end Double

end SqlCompose
