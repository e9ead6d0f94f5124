import CssAudit.Color.Basic

/-!
# Hue, saturation and lightness

Colors are converted to and from a hue in degrees and a saturation and a
lightness between zero and one, in floating-point arithmetic.
-/

namespace CssAudit

/-- A color by hue in degrees, saturation and lightness. -/
structure Hsl where
  hue : Float
  saturation : Float
  lightness : Float

namespace Hsl

/-- The channel of a color as a number between zero and one. -/
def channelFraction (channel : Fin 256) : Float :=
  channel.val.toFloat / 255

/-- The greater of two numbers, and the first if neither is greater. -/
def greater (a b : Float) : Float :=
  if a < b then b else a

/-- The lesser of two numbers, and the first if neither is less. -/
def lesser (a b : Float) : Float :=
  if b < a then b else a

/-- A number moved to the nearest end if it is outside zero to one. -/
def clamp (x : Float) : Float :=
  lesser (greater x 0) 1

def ofColor (color : Color) : Hsl :=
  let red := channelFraction color.red
  let green := channelFraction color.green
  let blue := channelFraction color.blue
  let largest := greater (greater red green) blue
  let smallest := lesser (lesser red green) blue
  let sum := largest + smallest
  let range := largest - smallest
  let lightness := sum / 2
  if smallest == largest then
    ⟨0, 0, lightness⟩
  else
    let saturation :=
      if lightness ≤ 0.5 then range / sum else range / (2 - largest - smallest)
    let redGap := (largest - red) / range
    let greenGap := (largest - green) / range
    let blueGap := (largest - blue) / range
    let sector :=
      if red == largest then blueGap - greenGap
      else if green == largest then 2 + redGap - blueGap
      else 4 + greenGap - redGap
    let turn := Numeral.floorRemainder (sector / 6) 1
    ⟨Numeral.floorRemainder (turn * 360) 360, saturation, lightness⟩

/-- The fraction of a channel whose hue, as a part of a turn, is given. -/
def channelAt (low high turn : Float) : Float :=
  let turn := Numeral.floorRemainder turn 1
  if turn < 1 / 6 then low + (high - low) * turn * 6
  else if turn < 0.5 then high
  else if turn < 2 / 3 then low + (high - low) * (2 / 3 - turn) * 6
  else low

/-- The channels, between zero and one, of a color by the part of a turn that
is its hue. -/
def fractions (turn saturation lightness : Float) : Float × Float × Float :=
  if saturation == 0 then
    (lightness, lightness, lightness)
  else
    let high :=
      if lightness ≤ 0.5 then lightness * (1 + saturation)
      else lightness + saturation - lightness * saturation
    let low := 2 * lightness - high
    (channelAt low high (turn + 1 / 3), channelAt low high turn,
      channelAt low high (turn - 1 / 3))

/-- The channel nearest to a fraction. -/
def roundChannel (fraction : Float) : Except ColorError Int :=
  match Numeral.roundToInt? (fraction * 255) with
  | some value => .ok value
  | none => .error .undefinedChannel

/-- The color nearest to a hue, a saturation and a lightness; the last two are
moved into zero to one first. -/
def toColor (hsl : Hsl) : Except ColorError Color := do
  let (red, green, blue) :=
    fractions (Numeral.floorRemainder hsl.hue 360 / 360) (clamp hsl.saturation)
      (clamp hsl.lightness)
  Color.ofNumbers (← roundChannel red) (← roundChannel green) (← roundChannel blue)
    none

end Hsl

end CssAudit
