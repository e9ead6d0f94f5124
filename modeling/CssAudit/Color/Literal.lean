import CssAudit.Color.Hsl
import CssAudit.Text.Case

/-!
# Color literals

A color is written as three, six or eight hexadecimal digits with or without a
number sign, as `rgb(…)` or `hsl(…)` with an optional opacity, or as one of a few
names.  Anything else has no known color, which says nothing about its safety.
-/

namespace CssAudit

namespace Color

def names : List (String × (Fin 256 × Fin 256 × Fin 256)) :=
  [("black", (0, 0, 0)), ("white", (255, 255, 255)), ("red", (255, 0, 0)),
    ("green", (0, 128, 0)), ("blue", (0, 0, 255)), ("yellow", (255, 255, 0)),
    ("cyan", (0, 255, 255)), ("magenta", (255, 0, 255)), ("gray", (128, 128, 128)),
    ("grey", (128, 128, 128)), ("darkgray", (169, 169, 169)),
    ("darkgrey", (169, 169, 169)), ("lightgray", (211, 211, 211)),
    ("lightgrey", (211, 211, 211)), ("orange", (255, 165, 0)),
    ("purple", (128, 0, 128)), ("pink", (255, 192, 203)), ("brown", (165, 42, 42)),
    ("navy", (0, 0, 128)), ("teal", (0, 128, 128)), ("olive", (128, 128, 0)),
    ("maroon", (128, 0, 0)), ("lime", (0, 255, 0)), ("aqua", (0, 255, 255)),
    ("silver", (192, 192, 192))]

/-- Black without any opacity. -/
def transparent : Color :=
  ⟨0, 0, 0, some ⟨.float 0, by decide⟩⟩

def ofName? (text : Text) : Option Color :=
  if text = "transparent".toList then some transparent
  else
    (names.find? fun entry => entry.1.toList == text).map fun entry =>
      ⟨entry.2.1, entry.2.2.1, entry.2.2.2, none⟩

/-- The color of three, six or eight hexadecimal digits. -/
def ofHexDigits? : List Nat → Option Color
  | [r, g, b] => (ofNumbers (17 * r) (17 * g) (17 * b) none).toOption
  | [r, r', g, g', b, b'] =>
      (ofNumbers (16 * r + r') (16 * g + g') (16 * b + b') none).toOption
  | [r, r', g, g', b, b', a, a'] =>
      (ofNumbers (16 * r + r') (16 * g + g') (16 * b + b')
        (some (.float ((16 * a + a').toFloat / 255)))).toOption
  | _ => none

/-- The color of hexadecimal digits after an optional number sign. -/
def ofHex? (text : Text) : Option Color :=
  let digits := (Text.dropPrefix? ['#'] text).getD text
  (digits.mapM Text.hexValue?).bind ofHexDigits?

/-- What follows the opening parenthesis of a color function, whose name may
end in an additional a. -/
def dropOpening? (name text : Text) : Option Text := do
  let rest ← Text.dropPrefix? name text
  Text.dropPrefix? ['('] ((Text.dropPrefix? ['a'] rest).getD rest)

/-- What follows a comma with blanks around it. -/
def dropComma? (text : Text) : Option Text :=
  (Text.dropPrefix? [','] (Text.trimStart text)).map Text.trimStart

/-- Whether a text is a closing parenthesis after blanks. -/
def isClosing (text : Text) : Bool :=
  Text.trimStart text = [')']

/-- A channel of one to three digits, with what follows it. -/
def channelNumber? (text : Text) : Option (Nat × Text) :=
  let (digits, rest) := text.span Text.isDecimal
  if 1 ≤ digits.length && digits.length ≤ 3 then
    some (Numeral.ofDigits (digits.filterMap Text.digitValue?), rest)
  else
    none

/-- A number without a sign that ends in a digit, with what follows it. -/
def quantity? (text : Text) : Option (Float × Text) :=
  let (whole, rest) := text.span Text.isDecimal
  let (fraction, after) :=
    match rest with
    | '.' :: afterPoint => afterPoint.span Text.isDecimal
    | _ => ([], rest)
  if !fraction.isEmpty then some (Numeral.ofDigitTexts whole fraction, after)
  else if !whole.isEmpty then some (Numeral.ofDigitTexts whole [], rest)
  else none

/-- A percentage as a part of one hundred, with what follows it. -/
def percentage? (text : Text) : Option (Float × Text) := do
  let (value, rest) ← quantity? text
  let rest ← Text.dropPrefix? ['%'] rest
  some (value / 100, rest)

/-- The opacity up to the closing parenthesis: nothing, or a number or a
percentage after a comma. -/
def opacityToEnd? (text : Text) : Option (Option Number) :=
  if isClosing text then
    some none
  else do
    let (value, rest) ← quantity? (← dropComma? text)
    match Text.dropPrefix? ['%'] rest with
    | some rest => if isClosing rest then some (some (.float (value / 100))) else none
    | none => if isClosing rest then some (some (.float value)) else none

/-- The color of a literal by red, green and blue. -/
def ofRgb? (text : Text) : Option Color := do
  let rest ← dropOpening? "rgb".toList text
  let (red, rest) ← channelNumber? (Text.trimStart rest)
  let (green, rest) ← channelNumber? (← dropComma? rest)
  let (blue, rest) ← channelNumber? (← dropComma? rest)
  let opacity ← opacityToEnd? rest
  (ofNumbers red green blue opacity).toOption

/-- The color of a literal by hue, saturation and lightness. -/
def ofHsl? (text : Text) : Option Color := do
  let rest ← dropOpening? "hsl".toList text
  let rest := Text.trimStart rest
  let (negative, rest) :=
    match rest with
    | '-' :: after => (true, after)
    | _ => (false, rest)
  let (degrees, rest) ← quantity? rest
  let rest := (Text.dropPrefix? "deg".toList rest).getD rest
  let (saturation, rest) ← percentage? (← dropComma? rest)
  let (lightness, rest) ← percentage? (← dropComma? rest)
  let opacity ← opacityToEnd? rest
  if 1 < saturation || 1 < lightness then
    none
  else
    let hsl : Hsl := ⟨Numeral.signed negative degrees, saturation, lightness⟩
    let color ← hsl.toColor.toOption
    (ofNumbers color.red.val color.green.val color.blue.val opacity).toOption

/-- The color of a literal in any case with blanks around it. -/
def parse? (literal : Text) : Option Color :=
  let text := (Text.trim literal).lower
  (ofName? text).or ((ofHex? text).or ((ofRgb? text).or (ofHsl? text)))

end Color

end CssAudit
