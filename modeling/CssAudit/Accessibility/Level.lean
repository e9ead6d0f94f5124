import CssAudit.Datum
import CssAudit.Text.Case

/-!
# Conformance levels and severities

Conformance has three levels of rising strictness, and a finding has one of
three severities.  Both have names under which callers and reports speak of
them.
-/

namespace CssAudit

/-- A conformance level, from minimal to enhanced. -/
inductive Level where
  | a
  | aa
  | aaa
  deriving DecidableEq, Repr

/-- How serious a finding is. -/
inductive Severity where
  | error
  | warning
  | info
  deriving DecidableEq, Repr

/-- A name that stands for no level or no severity. -/
inductive NameError where
  | level (name : Text)
  | severity (name : Text)
  deriving DecidableEq, Repr

def NameError.message : NameError → Text
  | .level name => Text.quoted name ++ " is not a valid WcagLevel".toList
  | .severity name => Text.quoted name ++ " is not a valid Severity".toList

namespace Level

def all : List Level := [.a, .aa, .aaa]

def name : Level → Text
  | .a => "A".toList
  | .aa => "AA".toList
  | .aaa => "AAA".toList

/-- The rank of a level: a stricter level has a higher rank. -/
def rank : Level → Nat
  | .a => 1
  | .aa => 2
  | .aaa => 3

/-- The level of a name in capitals. -/
def ofName? (text : Text) : Option Level :=
  all.find? fun level => level.name == text

/-- The level of a name in capitals. -/
def ofName (text : Text) : Except NameError Level :=
  match ofName? text with
  | some level => .ok level
  | none => .error (.level text)

/-- The level of a text in any case with blanks around it, or else a default. -/
def ofTextOr (default : Level) (text : Text) : Level :=
  (ofName? (Text.upper (Text.trim text))).getD default

/-- The level of a datum, or else a default. -/
def ofDatumOr (default : Level) : Datum → Level
  | .text value => ofTextOr default value
  | _ => default

/-- The contrast ratio that a level requires of large or normal text; the lowest
level has no requirement of its own and takes that of the next. -/
def requiredContrast (level : Level) (largeText : Bool) : Float :=
  match level, largeText with
  | .aaa, true => 4.5
  | .aaa, false => 7
  | _, true => 3
  | _, false => 4.5

end Level

namespace Severity

def all : List Severity := [.error, .warning, .info]

def name : Severity → Text
  | .error => "error".toList
  | .warning => "warning".toList
  | .info => "info".toList

def ofName (text : Text) : Except NameError Severity :=
  match all.find? fun severity => severity.name == text with
  | some severity => .ok severity
  | none => .error (.severity text)

end Severity

end CssAudit
