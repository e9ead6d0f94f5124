import CssAudit.Color.Hsl

/-!
# Luminance and contrast

The relative luminance of a color weighs its gamma-corrected channels, and the
contrast of two colors compares their luminances; it is symmetric and lies
between 1 and 21.  A color of too little contrast is repaired by moving its
lightness away from the background.
-/

namespace CssAudit

namespace Color

/-- A channel without the gamma correction. -/
def linearChannel (channel : Fin 256) : Float :=
  let fraction := Hsl.channelFraction channel
  if fraction ≤ 0.03928 then fraction / 12.92
  else Float.pow ((fraction + 0.055) / 1.055) 2.4

/-- The brightness of a color between zero and one. -/
def luminance (color : Color) : Float :=
  0.2126 * linearChannel color.red + 0.7152 * linearChannel color.green +
    0.0722 * linearChannel color.blue

def contrast (first second : Color) : Float :=
  let firstLuminance := luminance first
  let secondLuminance := luminance second
  (Hsl.greater firstLuminance secondLuminance + 0.05) /
    (Hsl.lesser firstLuminance secondLuminance + 0.05)

/-- The advice for a foreground of too little contrast. -/
inductive Repair where
  /-- A foreground of other lightness reaches the contrast. -/
  | foreground (darker : Bool) (color : Color) (ratio : Float)
  /-- No foreground on that side of the background does. -/
  | side (darker : Bool)

/-- The wording of an advice. -/
def Repair.message : Repair → Text
  | .foreground darker color ratio =>
      "Try a ".toList ++ (if darker then "darker".toList else "lighter".toList) ++
        " foreground such as ".toList ++ color.hex ++ " (".toList ++
        Numeral.fixedText 2 ratio ++ ":1).".toList
  | .side true =>
      "Try using a darker foreground color or lighter background.".toList
  | .side false =>
      "Try using a lighter foreground color or darker background.".toList

/-- More steps of two hundredths than fit between zero and one. -/
def repairSteps : Nat := 64

/-- The first color that reaches the required contrast when the lightness moves
step by step within zero to one. -/
def searchLightness (background : Color) (required step : Float) :
    Nat → Hsl → Option Color
  | 0, _ => none
  | steps + 1, hsl =>
      let lightness := hsl.lightness + step
      if 0 ≤ lightness && lightness ≤ 1 then
        let next := { hsl with lightness }
        match next.toColor with
        | .ok candidate =>
            if required ≤ contrast candidate background then some candidate
            else searchLightness background required step steps next
        | .error _ => none
      else
        none

/-- The advice for a foreground that should reach a contrast: it keeps its hue
and saturation and moves away from the luminance of the background. -/
def repair (foreground background : Color) (required : Float) : Repair :=
  let darker : Bool := luminance foreground ≤ luminance background
  let step : Float := if darker then -0.02 else 0.02
  match searchLightness background required step repairSteps (.ofColor foreground) with
  | some candidate => .foreground darker candidate (contrast candidate background)
  | none => .side darker

end Color

end CssAudit
