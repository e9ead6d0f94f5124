import CssAudit.Text.Case
import CssAudit.Value.Basic
import CssAudit.Value.Tokens

/-!
# Reading values

A value of a color property is first tried as a color literal.  Any other value
is cut into its top-level tokens, and each token is read on its own: a number
with a unit, a function, a hexadecimal color, a keyword, or none of these.
-/

namespace CssAudit

namespace Value

/-- Whether a character may stand in a unit. -/
def isUnitChar (c : Char) : Bool :=
  Text.isFoldedLetter c || c = '%'

/-- Whether a character may begin an identifier. -/
def isNameStart (c : Char) : Bool :=
  Text.isFoldedLetter c || c = '_'

/-- Whether a character may continue an identifier. -/
def isNameChar (c : Char) : Bool :=
  Text.isFoldedLetter c || c.isDigit || c = '_' || c = '-'

/-- The number at the start of a text, with what follows it. -/
def number? (text : Text) : Option (Float × Text) :=
  let (negative, body) := Numeral.splitSign text
  let (whole, rest) := body.span Text.isDecimal
  let (fraction, after) :=
    match rest with
    | '.' :: afterPoint => afterPoint.span Text.isDecimal
    | _ => ([], rest)
  if whole.isEmpty && fraction.isEmpty then none
  else some (Numeral.signed negative (Numeral.ofDigitTexts whole fraction), after)

def length? (token : Text) : Option Component := do
  let (number, unit) ← number? token
  if unit.all isUnitChar then some (.length token number (Text.lower unit)) else none

/-- The identifier at the start of a text, with what follows it. -/
def identifier? (text : Text) : Option (Text × Text) :=
  let (dash, body) :=
    match text with
    | '-' :: rest => (['-'], rest)
    | _ => ([], text)
  match body with
  | [] => none
  | c :: rest =>
      if isNameStart c then
        let (tail, after) := rest.span isNameChar
        some (dash ++ c :: tail, after)
      else
        none

/-- Whether a text has as many closing as opening parentheses. -/
def isBalanced (text : Text) : Bool :=
  text.count '(' == text.count ')'

/-- A text without a closing parenthesis at its end. -/
def dropClosing (text : Text) : Text :=
  if text.getLast? = some ')' then text.dropLast else text

def function? (token : Text) : Option Component := do
  let (name, rest) ← identifier? token
  let arguments ← Text.dropPrefix? ['('] (Text.trimStart rest)
  some (.function token name (Text.trim (dropClosing arguments)) (isBalanced token))

def isIdentifier (token : Text) : Bool :=
  (identifier? token).any fun parts => parts.2.isEmpty

/-- The component that a token is when it is neither a length nor a function. -/
def plainComponent (token : Text) : Component :=
  if token.head? = some '#' then
    match Color.parse? token with
    | some color => .color token color
    | none => .unparsed token
  else if isIdentifier token then
    .keyword token
  else
    .unparsed token

def component (token : Text) : Component :=
  match length? token with
  | some length => length
  | none => (function? token).getD (plainComponent token)

/-- Whether a property takes colors. -/
def isColorProperty (property : Text) : Bool :=
  Text.occursIn "color".toList (Text.lower property)

/-- The value of a property whose text is trimmed, apart from color literals. -/
def ofTokens (text : Text) : Value :=
  match splitTopLevel text with
  | first :: second :: tokens =>
      .composite text ((first :: second :: tokens).map component)
  | _ => .single (component text)

/-- The value that a text denotes for a property. -/
def parse (property raw : Text) : Value :=
  let text := Text.trim raw
  if isColorProperty property then
    match Color.parse? text with
    | some color => .single (.color text color)
    | none => ofTokens text
  else
    ofTokens text

/-- Whether a text starts like a number. -/
def looksNumeric (text : Text) : Bool :=
  let (_, body) := Numeral.splitSign text
  ((Text.dropPrefix? ['.'] body).getD body).head?.any Text.isDecimal

end Value

end CssAudit
