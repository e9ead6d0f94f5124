import CssAudit.Numeral.Integer

/-!
# Exact values of floating-point numbers

Rounding to a number of places, remainders and the texts of floating-point
numbers are all determined by the exact value of a number, which is a natural
number times a power of two.  Ties go to the even neighbour.
-/

namespace CssAudit

namespace Numeral

/-- A number whose absolute value is `mantissa * 2 ^ exponent`. -/
structure Exact where
  negative : Bool
  mantissa : Nat
  exponent : Int
  deriving DecidableEq, Repr

/-- The exact value of a number that is neither infinite nor undefined. -/
def exactOf? (x : Float) : Option Exact :=
  let bits := x.toBits.toNat
  let biased : Nat := bits / Nat.pow 2 52 % Nat.pow 2 11
  let fraction := bits % Nat.pow 2 52
  let negative := bits / Nat.pow 2 63 == 1
  if biased = Nat.pow 2 11 - 1 then none
  else if biased = 0 then some ⟨negative, fraction, -1074⟩
  else some ⟨negative, fraction + Nat.pow 2 52, (biased : Int) - 1075⟩

namespace Exact

def numerator (value : Exact) : Nat :=
  value.mantissa * Nat.pow 2 value.exponent.toNat

def denominator (value : Exact) : Nat :=
  Nat.pow 2 (-value.exponent).toNat

/-- The integer that a number equals, if it has no fraction. -/
def toInt? (value : Exact) : Option Int :=
  if value.numerator % value.denominator = 0 then
    let magnitude : Nat := value.numerator / value.denominator
    some (if value.negative then -(magnitude : Int) else magnitude)
  else
    none

end Exact

/-- The quotient of two natural numbers rounded to the nearest, ties to even. -/
def roundDiv (numerator denominator : Nat) : Nat :=
  let quotient := numerator / denominator
  let twice := 2 * (numerator % denominator)
  if denominator < twice || (twice == denominator && quotient % 2 == 1) then
    quotient + 1
  else
    quotient

/-- The floating-point number nearest to `mantissa * 10 ^ exponent`. -/
def ofDecimal (mantissa : Nat) (exponent : Int) : Float :=
  let magnitude := (Nat.toDigits 10 mantissa).length + exponent
  if mantissa = 0 || magnitude < -400 then 0
  else if 400 < magnitude then 1 / 0
  else Float.ofScientific mantissa (exponent < 0) exponent.natAbs

/-- The number whose decimal digits before and after the point are given. -/
def ofDigitTexts (whole fraction : Text) : Float :=
  ofDecimal (ofDigits ((whole ++ fraction).filterMap Text.digitValue?))
    (-fraction.length)

/-- A number with its sign changed if `negative` holds. -/
def signed (negative : Bool) (x : Float) : Float :=
  if negative then -x else x

/-- The integer nearest to a number, ties to even. -/
def roundToInt? (x : Float) : Option Int :=
  (exactOf? x).map fun value =>
    let magnitude : Nat := roundDiv value.numerator value.denominator
    if value.negative then -(magnitude : Int) else magnitude

/-- The number of `places` decimal places nearest to a number, ties to even. -/
def roundPlaces (places : Nat) (x : Float) : Float :=
  match exactOf? x with
  | none => x
  | some value =>
      signed value.negative
        (ofDecimal (roundDiv (value.numerator * Nat.pow 10 places) value.denominator)
          (-places))

/-- The part of `mantissa * 2 ^ exponent` below the divisor, for nonnegative
numbers, as a floating-point number. -/
def exactRemainder (value divisor : Exact) : Float :=
  let numerator := value.numerator * divisor.denominator %
    (divisor.numerator * value.denominator)
  let exponent := min value.exponent 0 + min divisor.exponent 0
  ofDecimal (numerator * Nat.pow 5 (-exponent).toNat) exponent

/-- The remainder of a division rounded down: it has the sign of the divisor. -/
def floorRemainder (x divisor : Float) : Float :=
  match exactOf? x, exactOf? divisor with
  | some value, some divisorValue =>
      let remainder := signed value.negative (exactRemainder value divisorValue)
      if remainder == 0 then signed divisorValue.negative 0
      else if value.negative == divisorValue.negative then remainder
      else remainder + divisor
  | _, _ => 0 / 0

end Numeral

end CssAudit
