import CssAudit.Numeral.Exact

/-!
# The text of a floating-point number

A number is written with the fewest digits that read back as the same number,
and of those the digits nearest to it.  Positions decide the layout: digits in
place from `0.0001` below `1e+16`, a power of ten elsewhere.  Numbers with a
fixed count of decimal places are rounded from their exact value.
-/

namespace CssAudit

namespace Numeral

/-- The texts of the numbers that have no digits. -/
def specialText (x : Float) : Text :=
  if x.isNaN then "nan".toList
  else if x < 0 then "-inf".toList
  else "inf".toList

/-- A digit text with a point before its last `places` digits. -/
def placePoint (places : Nat) (digits : Text) : Text :=
  let padded := digits.leftpad (places + 1) '0'
  let whole := padded.take (padded.length - places)
  if places = 0 then whole
  else whole ++ '.' :: padded.drop (padded.length - places)

/-- The text of a number with a fixed count of decimal places. -/
def fixedText (places : Nat) (x : Float) : Text :=
  match exactOf? x with
  | none => specialText x
  | some value =>
      let scaled := roundDiv (value.numerator * Nat.pow 10 places) value.denominator
      (if value.negative then ['-'] else []) ++
        placePoint places (Text.ofNat scaled)

/-- A decimal number `digits * 10 ^ exponent`. -/
structure Decimal where
  digits : Nat
  exponent : Int

/-- The position of the first digit: a positive quotient is below
`10 ^ position` and not below `10 ^ (position - 1)`. -/
def firstPosition (numerator denominator : Nat) : Int :=
  if denominator ≤ numerator then
    (Nat.toDigits 10 (numerator / denominator)).length
  else
    let zeros := (Nat.toDigits 10 (denominator / numerator)).length - 1
    if denominator ≤ numerator * Nat.pow 10 zeros then 1 - zeros else -zeros

/-- Whether `digits * 10 ^ exponent` is nearer to a positive number than to its
neighbours among the floating-point numbers; the middle belongs to the number
whose mantissa is even. -/
def readsBack (value : Exact) (candidate : Decimal) : Bool :=
  let atBoundary := value.mantissa == Nat.pow 2 52 && -1074 < value.exponent
  let lowest := 4 * value.mantissa - (if atBoundary then 1 else 2)
  let highest := 4 * value.mantissa + 2
  let unitNumerator :=
    Nat.pow 2 value.exponent.toNat * Nat.pow 10 (-candidate.exponent).toNat
  let unitDenominator :=
    Nat.pow 2 (-value.exponent).toNat * Nat.pow 10 candidate.exponent.toNat
  let scaled := 4 * candidate.digits * unitDenominator
  if value.mantissa % 2 = 0 then
    lowest * unitNumerator ≤ scaled && scaled ≤ highest * unitNumerator
  else
    lowest * unitNumerator < scaled && scaled < highest * unitNumerator

/-- The decimal number of `count` digits nearest to a positive number, if it
reads back. -/
def decimalOfCount? (value : Exact) (count : Nat) : Option Decimal :=
  let exponent := firstPosition value.numerator value.denominator - count
  let numerator := value.numerator * Nat.pow 10 (-exponent).toNat
  let denominator := value.denominator * Nat.pow 10 exponent.toNat
  let nearest := roundDiv numerator denominator
  let below := numerator / denominator
  [nearest, below, below + 1].findSome? fun digits =>
    if readsBack value ⟨digits, exponent⟩ then some ⟨digits, exponent⟩ else none

/-- The fewest digits that read back as a positive number. -/
def shortest (value : Exact) : Decimal :=
  ((List.range 17).findSome? fun count => decimalOfCount? value (count + 1)).getD
    ⟨value.mantissa, 0⟩

/-- The layout of shortest digits whose point stands after `position` digits. -/
def layOut (digits : Text) (position : Int) : Text :=
  if -4 < position && position ≤ 16 then
    if position ≤ 0 then
      "0.".toList ++ List.replicate (-position).toNat '0' ++ digits
    else if digits.length ≤ position.toNat then
      digits ++ List.replicate (position.toNat - digits.length) '0' ++ ".0".toList
    else
      digits.take position.toNat ++ '.' :: digits.drop position.toNat
  else
    let power := position - 1
    let fraction := digits.drop 1
    digits.take 1 ++ (if fraction.isEmpty then [] else '.' :: fraction) ++
      (if power < 0 then "e-".toList else "e+".toList) ++
      (Text.ofNat power.natAbs).leftpad 2 '0'

/-- The text of a floating-point number. -/
def floatText (x : Float) : Text :=
  match exactOf? x with
  | none => specialText x
  | some value =>
      let body :=
        if value.mantissa = 0 then
          "0.0".toList
        else
          let decimal := shortest value
          let digits := Text.ofNat decimal.digits
          let significant := (digits.reverse.dropWhile (· = '0')).reverse
          layOut significant (digits.length + decimal.exponent)
      if value.negative then '-' :: body else body

end Numeral

end CssAudit
