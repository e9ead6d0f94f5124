import CssAudit.Datum

/-!
# Writing JSON

A datum is written in ASCII with one entry per line, two spaces further in for
each level.  Numbers that JSON has no form for are written as `NaN` and
`Infinity`.
-/

namespace CssAudit

namespace Json

/-- A JSON escape of one sixteen-bit unit. -/
def escapeUnit (unit : Nat) : Text :=
  ['\\', 'u'] ++ Text.hexDigits 4 unit

/-- How a character is written inside a JSON string. -/
def escapeChar (c : Char) : Text :=
  if c = '"' || c = '\\' then ['\\', c]
  else if c = '\n' then ['\\', 'n']
  else if c = '\r' then ['\\', 'r']
  else if c = '\t' then ['\\', 't']
  else if c = '\x08' then ['\\', 'b']
  else if c = '\x0C' then ['\\', 'f']
  else if 0x20 ≤ c.toNat && c.toNat < 0x7F then [c]
  else if c.toNat < 0x10000 then escapeUnit c.toNat
  else
    let offset := c.toNat - 0x10000
    escapeUnit (0xD800 + offset / 0x400) ++ escapeUnit (0xDC00 + offset % 0x400)

def writeText (text : Text) : Text :=
  '"' :: text.flatMap escapeChar ++ ['"']

def writeNumber : Number → Text
  | .int n => Numeral.integerText n
  | .float x =>
      if x.isNaN then "NaN".toList
      else if x.isInf then (if x < 0 then "-Infinity".toList else "Infinity".toList)
      else Numeral.floatText x

def writeBool (value : Bool) : Text :=
  if value then "true".toList else "false".toList

def writeScalar : Scalar → Text
  | .null => "null".toList
  | .bool value => writeBool value
  | .number value => writeNumber value
  | .text value => writeText value

/-- A scalar as the key of a JSON object. -/
def writeKey : Scalar → Text
  | .text value => writeText value
  | other => writeText (writeScalar other)

/-- A line break followed by the indentation of a level. -/
def newLine (level : Nat) : Text :=
  '\n' :: List.replicate (2 * level) ' '

mutual

/-- A datum as a JSON value that stands at a level of indentation. -/
def writeAt (level : Nat) : Datum → Text
  | .scalar value => writeScalar value
  | .list [] => "[]".toList
  | .list (item :: items) =>
      '[' :: newLine (level + 1) ++ writeAt (level + 1) item ++
        writeItems (level + 1) items ++ newLine level ++ [']']
  | .object [] => ['{', '}']
  | .object ((key, value) :: entries) =>
      '{' :: newLine (level + 1) ++ writeKey key ++ ": ".toList ++
        writeAt (level + 1) value ++ writeEntries (level + 1) entries ++
        newLine level ++ ['}']

/-- The items of a list after the first. -/
def writeItems (level : Nat) : List Datum → Text
  | [] => []
  | item :: items =>
      ',' :: newLine level ++ writeAt level item ++ writeItems level items

/-- The entries of an object after the first. -/
def writeEntries (level : Nat) : List (Scalar × Datum) → Text
  | [] => []
  | (key, value) :: entries =>
      ',' :: newLine level ++ writeKey key ++ ": ".toList ++ writeAt level value ++
        writeEntries level entries

end

def write (value : Datum) : Text :=
  writeAt 0 value

end Json

end CssAudit
