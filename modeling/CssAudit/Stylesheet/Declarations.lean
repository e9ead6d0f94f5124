import CssAudit.OrderedMap
import CssAudit.Stylesheet.Comment
import CssAudit.Text.Blank
import CssAudit.Text.Case

/-!
# Declaration blocks

A declaration is a name and a value around the first colon of a piece between
semicolons.  Pieces without a name or a value are skipped, names are in lower
case, and the last declaration of a name wins at the place of the first.
-/

namespace CssAudit

namespace Stylesheet

/-- The declaration that a piece of a block holds. -/
def declaration? (piece : Text) : Option (Text × Text) := do
  let (name, value) ← Text.cutAt ':' piece
  let name := Text.lower (Text.trim name)
  let value := Text.trim value
  if name.isEmpty || value.isEmpty then none else some (name, value)

/-- The declarations of a block, one for each complete piece. -/
def declarationsOf (body : Text) : List (Text × Text) :=
  (Text.splitOn ';' body).filterMap declaration?

/-- A text without the braces that enclose it. -/
def dropBraces (text : Text) : Text :=
  if text.head? = some '{' && text.getLast? = some '}' then
    text.tail.dropLast
  else
    text

/-- The declarations of a block by name, with their values as written. -/
def parseDeclarations (body : Text) : OrderedMap Text Text :=
  OrderedMap.ofList
    (declarationsOf (dropBraces (Text.trim (stripComments body))))

/-- What stands before the importance flag that ends a value, if one does. -/
def beforeImportant? (value : Text) : Option Text := do
  let rest ← Text.dropFolded? "tnatropmi".toList
    (value.reverse.dropWhile Text.isBlank)
  let before ← Text.dropPrefix? ['!'] (rest.dropWhile Text.isBlank)
  some before.reverse

/-- A value without its importance flag, and whether it had one. -/
def splitImportant (value : Text) : Text × Bool :=
  match beforeImportant? value with
  | some before => (Text.trim before, true)
  | none => (Text.trim value, false)

/-- A declaration block on one line. -/
def renderDeclarations (declarations : List (Text × Text)) : Text :=
  Text.joinWith "; ".toList
    (declarations.map fun entry => entry.1 ++ ": ".toList ++ entry.2)

end Stylesheet

end CssAudit
