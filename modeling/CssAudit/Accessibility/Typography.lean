import CssAudit.OrderedMap
import CssAudit.Value.Parser

/-!
# Text sizes and weights

The contrast that a text needs depends on its size and weight, which are read
from the declarations of a rule.
-/

namespace CssAudit

namespace Typography

/-- The sizes of the keywords, in pixels. -/
def sizeKeywords : List (String × Float) :=
  [("xx-small", 9), ("x-small", 10), ("small", 13), ("medium", 16), ("large", 18),
    ("x-large", 24), ("xx-large", 32), ("xxx-large", 48)]

def keywordSize? (keyword : Text) : Option Float :=
  (sizeKeywords.find? fun entry => entry.1.toList == keyword).map (·.2)

/-- The pixels of a font size, if it has a size of its own. -/
def fontSize? (raw : Text) : Option Float :=
  match Value.parse "font-size".toList raw with
  | .single (.length _ number unit) => Value.pixels? number unit
  | .single (.keyword text) => keywordSize? text.lower
  | _ => none

/-- The weight from which text is bold. -/
def boldWeight : Int := 700

def isBold (raw : Text) : Except Numeral.IntegerError Bool :=
  let weight := (Text.trim raw).lower
  if weight = "bold".toList || weight = "bolder".toList then
    .ok true
  else if !weight.isEmpty && weight.all Text.isFigure then
    (Numeral.readInteger weight).map (boldWeight ≤ ·)
  else
    .ok false

def isBoldIfDeclared : Option Text → Except Numeral.IntegerError Bool
  | none => .ok false
  | some raw => isBold raw

/-- The size of text without a size of its own, in pixels. -/
def defaultSize : Float := 16

/-- The size from which text is large, in pixels. -/
def largeSize : Float := 24

/-- The size from which bold text is large, in pixels. -/
def largeBoldSize : Float := 19

def isLarge (declarations : OrderedMap Text Text) :
    Except Numeral.IntegerError Bool :=
  let declaredSize := (OrderedMap.get? declarations "font-size".toList).bind fontSize?
  let size := declaredSize.getD defaultSize
  if largeSize ≤ size then
    .ok true
  else
    (isBoldIfDeclared (OrderedMap.get? declarations "font-weight".toList)).map fun bold =>
      bold && largeBoldSize ≤ size

/-- The number that a plain number or a percentage stands for. -/
def proportion? (raw : Text) : Option Float :=
  match Value.parse [] raw with
  | .single (.length _ number unit) =>
      if unit.isEmpty then some number
      else if unit = ['%'] then some (number / 100)
      else none
  | _ => none

end Typography

end CssAudit
