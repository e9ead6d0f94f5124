import CssAudit.Gate.Validation
import CssAudit.Stylesheet.Declarations

/-!
# Inline styles

The declarations of a batch that pass the gate on their own are rendered as the
value of a style attribute, without the characters that could leave it.
-/

namespace CssAudit

namespace Gate

/-- Whether a character could leave the attribute. -/
def isBreakout (c : Char) : Bool :=
  c = '"' || c = '\'' || c = '<' || c = '>'

/-- A value as it stands in the attribute. -/
def attributeValue (value : Text) : Text :=
  Text.trim (value.filter fun c => !isBreakout c)

/-- The styles after one more declaration that passed the gate: the last one of
a name wins, and one whose value vanishes removes the name. -/
def setStyle (styles : OrderedMap Text Text) (declaration : Text × Text) :
    OrderedMap Text Text :=
  let value := attributeValue declaration.2
  if value.isEmpty then OrderedMap.erase declaration.1 styles
  else OrderedMap.insert declaration.1 value styles

/-- The declarations of one entry that pass the gate on their own. -/
def passing (entry : Scalar × Datum) :
    Except Numeral.IntegerError (List (Text × Text)) := do
  let result ← validate [entry] false
  .ok (if result.ok then result.validated else [])

/-- The styles of a batch by property. -/
def inlineStyles (batch : Batch) :
    Except Numeral.IntegerError (OrderedMap Text Text) := do
  let passed ← batch.mapM passing
  .ok (passed.flatten.foldl setStyle [])

def inlineStyle (batch : Batch) : Except Numeral.IntegerError Text := do
  let styles ← inlineStyles batch
  .ok (Stylesheet.renderDeclarations styles)

end Gate

end CssAudit
