import CssAudit.Text.Basic

/-!
# Rejections and warnings

A rejection names its cause.  Each cause has a stable code, a wording and a
kind, and all but one blame a property.  A warning notes a value that was
accepted without being understood.
-/

namespace CssAudit

namespace Gate

/-- How far a rejection reaches: over the batch, over one declaration, or over
a batch that was to pass without warnings. -/
inductive RejectionKind where
  | security
  | schema
  | strict
  deriving DecidableEq, Repr

def RejectionKind.name : RejectionKind → Text
  | .security => "security".toList
  | .schema => "schema".toList
  | .strict => "strict".toList

/-- Why a declaration or a batch is refused. -/
inductive Rejection where
  | dangerousName (property : Text)
  | nullByte (property : Text)
  | dangerousPattern (property pattern : Text)
  | emptyValue (property : Text)
  | urlValue (property : Text)
  | invalidColor (property value : Text)
  | numberTooLarge (property value : Text)
  | invalidUnit (property unit value : Text)
  | invalidNumber (property value : Text)
  | invalidKeyword (property value : Text)
  | invalidFunction (property name : Text)
  | malformedFunction (property value : Text)
  | propertyNotAllowed (property written : Text)
  | unusableValue (property kindName : Text)
  | strictWarnings (count : Nat)
  deriving DecidableEq, Repr

namespace Rejection

def code : Rejection → Text
  | .dangerousName _ | .nullByte _ | .dangerousPattern _ _ =>
      "dangerous_pattern".toList
  | .emptyValue _ => "empty_value".toList
  | .urlValue _ => "url_not_allowed".toList
  | .invalidColor _ _ => "invalid_color".toList
  | .numberTooLarge _ _ => "value_too_large".toList
  | .invalidUnit _ _ _ => "invalid_unit".toList
  | .invalidNumber _ _ => "invalid_number".toList
  | .invalidKeyword _ _ => "invalid_keyword".toList
  | .invalidFunction _ _ => "invalid_function".toList
  | .malformedFunction _ _ => "malformed_function".toList
  | .propertyNotAllowed _ _ => "property_not_allowed".toList
  | .unusableValue _ _ => "invalid_value".toList
  | .strictWarnings _ => "strict_warnings".toList

def message : Rejection → Text
  | .dangerousName property =>
      "Dangerous pattern detected: ".toList ++ property ++ ":".toList
  | .nullByte property => "Null byte in value for ".toList ++ property
  | .dangerousPattern _ pattern => "Dangerous pattern detected: ".toList ++ pattern
  | .emptyValue property => "Empty value for property: ".toList ++ property
  | .urlValue property =>
      "URL values are not allowed for security reasons (".toList ++ property ++
        ")".toList
  | .invalidColor property value =>
      "Invalid color value for ".toList ++ property ++ ": ".toList ++ value
  | .numberTooLarge property value =>
      "Numeric value exceeds maximum allowed (10000) for ".toList ++ property ++
        ": ".toList ++ value
  | .invalidUnit property unit value =>
      "Invalid CSS unit '".toList ++ unit ++ "' for ".toList ++ property ++
        ": ".toList ++ value
  | .invalidNumber property value =>
      "Malformed number for ".toList ++ property ++ ": ".toList ++ value
  | .invalidKeyword property value =>
      "Invalid keyword \"".toList ++ value ++ "\" for property ".toList ++ property
  | .invalidFunction property name =>
      "CSS function not allowed for ".toList ++ property ++ ": ".toList ++ name
  | .malformedFunction property value =>
      "Malformed CSS function for ".toList ++ property ++
        " (mismatched parentheses): ".toList ++ value
  | .propertyNotAllowed _ written => "Property not allowed: ".toList ++ written
  | .unusableValue property kindName =>
      "Value for ".toList ++ property ++ " must be a string, got ".toList ++ kindName
  | .strictWarnings count =>
      "Strict validation failed: ".toList ++ Text.ofNat count ++
        " warning(s) treated as errors".toList

def kind : Rejection → RejectionKind
  | .dangerousName _ | .nullByte _ | .dangerousPattern _ _ => .security
  | .strictWarnings _ => .strict
  | _ => .schema

/-- The property that a rejection blames. -/
def property? : Rejection → Option Text
  | .dangerousName property | .nullByte property | .dangerousPattern property _
  | .emptyValue property | .urlValue property | .invalidColor property _
  | .numberTooLarge property _ | .invalidUnit property _ _
  | .invalidNumber property _ | .invalidKeyword property _
  | .invalidFunction property _ | .malformedFunction property _
  | .propertyNotAllowed property _ | .unusableValue property _ => some property
  | .strictWarnings _ => none

end Rejection

/-- A value that was accepted without being understood. -/
structure Warning where
  property : Text
  value : Text
  deriving DecidableEq, Repr

def Warning.message (warning : Warning) : Text :=
  "Could not fully validate ".toList ++ warning.property ++ ": ".toList ++
    warning.value

end Gate

end CssAudit
