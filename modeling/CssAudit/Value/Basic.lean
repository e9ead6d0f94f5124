import CssAudit.Color.Literal

/-!
# Typed values

A declaration value is one component or a sequence of components.  The gate and
the accessibility rules decide on components, not on text.
-/

namespace CssAudit

namespace Value

/-- One component of a value, with the text it was read from. -/
inductive Component where
  /-- A plain identifier. -/
  | keyword (text : Text)
  /-- A color literal. -/
  | color (text : Text) (color : Color)
  /-- A number with a unit, in lower case and possibly empty. -/
  | length (text : Text) (number : Float) (unit : Text)
  /-- A name before parentheses, whose counts may or may not agree. -/
  | function (text name arguments : Text) (balanced : Bool)
  /-- Anything else. -/
  | unparsed (text : Text)

/-- The text a component was read from. -/
def Component.text : Component → Text
  | .keyword text => text
  | .color text _ => text
  | .length text _ _ => text
  | .function text _ _ _ => text
  | .unparsed text => text

end Value

/-- A declaration value. -/
inductive Value where
  | single (component : Value.Component)
  | composite (text : Text) (parts : List Value.Component)

namespace Value

/-- The text a value was read from. -/
def text : Value → Text
  | .single component => component.text
  | .composite text _ => text

/-- The keywords that every property understands. -/
def wideKeywords : List String :=
  ["inherit", "initial", "unset", "none", "auto"]

/-- Whether a text in lower case is a keyword that every property understands. -/
def isWideKeyword (text : Text) : Bool :=
  wideKeywords.any fun keyword => keyword.toList == text

/-- The pixels per unit; relative units assume a font of sixteen pixels. -/
def pixelsPerUnit? (unit : Text) : Option Float :=
  if unit = "px".toList then some 1
  else if unit = "pt".toList then some 1.333
  else if unit = "em".toList || unit = "rem".toList then some 16
  else if unit = ['%'] then some 0.16
  else none

/-- The pixels of a length, if its unit has a fixed size; zero needs no unit. -/
def pixels? (number : Float) (unit : Text) : Option Float :=
  if unit.isEmpty then
    if number == 0 then some 0 else none
  else
    (pixelsPerUnit? unit).map (number * ·)

end Value

end CssAudit
