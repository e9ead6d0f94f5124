import CssAudit.Datum
import CssAudit.Gate.Rejection
import CssAudit.Gate.Tables
import CssAudit.Text.Blank
import CssAudit.Text.Case

/-!
# Normal forms and dangers

A property name is reduced to lower-case letters, digits and hyphens.  A value
loses its NUL characters, and its words are separated by single spaces.

Before any declaration is judged, the whole batch is searched for a dangerous
property name, NUL characters and dangerous patterns.  Patterns are looked for
in a value as it is and in its normal form, since the normal form may join what
a NUL character separated.
-/

namespace CssAudit

namespace Gate

/-- Whether a character may stand in the normal form of a property name. -/
def isNameChar (c : Char) : Bool :=
  c.isLower || c.isDigit || c = '-'

/-- The normal form of a property name. -/
def sanitizeName (name : Text) : Text :=
  (Text.lower (Text.trim name)).filter isNameChar

/-- The character that no value keeps. -/
def nul : Char := '\x00'

/-- The normal form of a value. -/
def sanitizeValue (value : Text) : Text :=
  Text.collapse (value.filter (· ≠ nul))

/-- Whether a pattern occurs in a value or in its normal form, in any case. -/
def holdsPattern (text : Text) (pattern : String) : Bool :=
  Text.occursIn pattern.toList (Text.lower text) ||
    Text.occursIn pattern.toList (Text.lower (sanitizeValue text))

def valueDangers (property text : Text) : List Rejection :=
  (if text.elem nul then [.nullByte property] else []) ++
    (dangerousPatterns.filter (holdsPattern text)).map fun pattern =>
      .dangerousPattern property pattern.toList

/-- The dangers of a declaration. -/
def entryDangers (entry : Scalar × Datum) :
    Except Numeral.IntegerError (List Rejection) := do
  let property := sanitizeName (← entry.1.toText)
  let nameDangers : List Rejection :=
    if property = dangerousProperty then [.dangerousName property] else []
  match ← Batch.valueText? entry.2 with
  | none => .ok nameDangers
  | some text => .ok (nameDangers ++ valueDangers property text)

def dangers (batch : Batch) : Except Numeral.IntegerError (List Rejection) := do
  let found ← batch.mapM entryDangers
  .ok found.flatten

end Gate

end CssAudit
