import CssAudit.Datum
import CssAudit.Text.Digit

/-!
# Colors

A color has three channels of eight bits and, if its literal carried one, an
opacity between zero and one.
-/

namespace CssAudit

/-- Whether a number lies between zero and one. -/
def Number.isFraction : Number → Bool
  | .int n => 0 ≤ n && n ≤ 1
  | .float x => 0 ≤ x && x ≤ 1

def Number.isZero : Number → Bool
  | .int n => n == 0
  | .float x => x == 0

/-- A number between zero and one: zero is transparent and one is solid. -/
structure Opacity where
  value : Number
  isFraction : value.isFraction = true

/-- A color with channels of eight bits. -/
structure Color where
  red : Fin 256
  green : Fin 256
  blue : Fin 256
  opacity : Option Opacity := none

/-- Why numbers do not make a color. -/
inductive ColorError where
  /-- A channel is not between 0 and 255. -/
  | channelOutOfRange (value : Int)
  /-- The opacity is not between zero and one. -/
  | opacityOutOfRange (value : Number)
  /-- A channel is not a number. -/
  | undefinedChannel

/-- The wording of a color error about a number. -/
def ColorError.about (topic : String) (value : Number) : Text :=
  match value.toText with
  | .ok text => topic.toList ++ " out of range: ".toList ++ text
  | .error cause => cause.message

def ColorError.message : ColorError → Text
  | .channelOutOfRange value => about "Channel" (.int value)
  | .opacityOutOfRange value => about "Alpha" value
  | .undefinedChannel => "cannot convert float NaN to integer".toList

namespace Color

/-- The channel of a number between 0 and 255. -/
def channel (value : Int) : Except ColorError (Fin 256) :=
  if bounds : 0 ≤ value ∧ value ≤ 255 then
    .ok ⟨value.toNat, by omega⟩
  else
    .error (.channelOutOfRange value)

/-- The opacity of a number between zero and one. -/
def opacityOf (value : Number) : Except ColorError Opacity :=
  if fraction : value.isFraction = true then .ok ⟨value, fraction⟩
  else .error (.opacityOutOfRange value)

/-- The color with the given channels and opacity; the first that is out of
range is the error. -/
def ofNumbers (red green blue : Int) (opacity : Option Number) :
    Except ColorError Color := do
  let red ← channel red
  let green ← channel green
  let blue ← channel blue
  match opacity with
  | none => .ok ⟨red, green, blue, none⟩
  | some value => do
      let opacity ← opacityOf value
      .ok ⟨red, green, blue, some opacity⟩

/-- The color as a number sign and six hexadecimal digits. -/
def hex (color : Color) : Text :=
  '#' :: [color.red, color.green, color.blue].flatMap fun channel =>
    Text.hexDigits 2 channel.val

def isTransparent (color : Color) : Bool :=
  color.opacity.any fun opacity => opacity.value.isZero

end Color

end CssAudit
