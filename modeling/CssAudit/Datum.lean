import CssAudit.Numeral.Shortest
import CssAudit.OrderedMap

/-!
# Data handed in and out

Declaration maps, contexts and reports travel as data of the kinds that JSON
knows, with integers and floating-point numbers told apart.  A scalar may also
be the key of an object.  Data handed in by callers may be of the wrong kind,
so each kind has the name by which messages call it.

Declarations are handed in as a batch: a map from properties to values of any
kind.  Texts and numbers have a text as values; all other values are unusable.
-/

namespace CssAudit

/-- A number that is an integer or a floating-point number. -/
inductive Number where
  | int (value : Int)
  | float (value : Float)

/-- A datum without parts. -/
inductive Scalar where
  | null
  | bool (value : Bool)
  | number (value : Number)
  | text (value : Text)

/-- A scalar, a list, or an object whose entries are in order. -/
inductive Datum where
  | scalar (value : Scalar)
  | list (items : List Datum)
  | object (entries : List (Scalar × Datum))

namespace Number

/-- Whether an integer and a floating-point number are equal. -/
def sameAsInt (x : Float) (n : Int) : Bool :=
  ((Numeral.exactOf? x).bind (·.toInt?)) == some n

/-- Whether two numbers are equal in value. -/
def same : Number → Number → Bool
  | .int m, .int n => m == n
  | .int n, .float x => sameAsInt x n
  | .float x, .int n => sameAsInt x n
  | .float x, .float y => x == y

def toText : Number → Except Numeral.IntegerError Text
  | .int n => Numeral.writeInteger n
  | .float x => .ok (Numeral.floatText x)

end Number

namespace Scalar

/-- The number that a scalar counts as when keys are compared: true is one and
false is zero. -/
def number? : Scalar → Option Number
  | .bool value => some (.int value.toNat)
  | .number value => some value
  | .null => none
  | .text _ => none

/-- Whether two scalars are the same key. -/
def same : Scalar → Scalar → Bool
  | .null, .null => true
  | .text s, .text t => s == t
  | a, b =>
      match a.number?, b.number? with
      | some m, some n => m.same n
      | _, _ => false

instance : BEq Scalar :=
  ⟨same⟩

def toText : Scalar → Except Numeral.IntegerError Text
  | .null => .ok "None".toList
  | .bool true => .ok "True".toList
  | .bool false => .ok "False".toList
  | .number value => value.toText
  | .text value => .ok value

def kindName : Scalar → Text
  | .null => "NoneType".toList
  | .bool _ => "bool".toList
  | .number (.int _) => "int".toList
  | .number (.float _) => "float".toList
  | .text _ => "str".toList

end Scalar

namespace Datum

@[match_pattern]
abbrev null : Datum := .scalar .null

@[match_pattern]
abbrev bool (value : Bool) : Datum := .scalar (.bool value)

@[match_pattern]
abbrev int (value : Int) : Datum := .scalar (.number (.int value))

@[match_pattern]
abbrev float (value : Float) : Datum := .scalar (.number (.float value))

@[match_pattern]
abbrev text (value : Text) : Datum := .scalar (.text value)

instance : Inhabited Datum :=
  ⟨.null⟩

def kindName : Datum → Text
  | .scalar value => value.kindName
  | .list _ => "list".toList
  | .object _ => "dict".toList

def text? : Datum → Option Text
  | .text value => some value
  | _ => none

/-- A datum that may be absent. -/
def ofOption {α : Type} (toDatum : α → Datum) : Option α → Datum
  | none => .null
  | some value => toDatum value

/-- An object whose keys are texts. -/
def record (fields : List (String × Datum)) : Datum :=
  .object (fields.map fun field => (.text field.1.toList, field.2))

def texts (items : List Text) : Datum :=
  .list (items.map .text)

/-- The value of a text key of an object. -/
def field? (entries : List (Scalar × Datum)) (name : String) : Option Datum :=
  OrderedMap.get? entries (.text name.toList)

end Datum

/-- Declarations by property, in order. -/
abbrev Batch := List (Scalar × Datum)

namespace Batch

/-- The text of a value that is a text or a number. -/
def valueText? : Datum → Except Numeral.IntegerError (Option Text)
  | .text value => .ok (some value)
  | .scalar (.number value) => value.toText.map some
  | _ => .ok none

/-- The batch of declarations whose properties and values are texts. -/
def ofTexts (entries : List (Text × Text)) : Batch :=
  entries.map fun entry => (.text entry.1, .text entry.2)

end Batch

end CssAudit
