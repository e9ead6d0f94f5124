import CssAudit.Datum

/-!
# Contexts

A context holds facts that declarations cannot express: whether the element
takes the keyboard focus, which colors surround it, its tag and its selector.
Callers name these facts in several ways; the canonical name of a fact takes
precedence over its other names, and of those the first one given counts.
-/

namespace CssAudit

/-- The facts of a context. -/
inductive ContextField where
  | isInteractive
  | background
  | foreground
  | tag
  | selector
  deriving DecidableEq, Repr

namespace ContextField

def name : ContextField → String
  | .isInteractive => "is_interactive"
  | .background => "default_background"
  | .foreground => "default_foreground"
  | .tag => "tag"
  | .selector => "selector"

/-- The facts that are texts, in the order in which they are checked. -/
def texts : List ContextField := [.background, .foreground, .tag, .selector]

/-- The fact of a canonical name. -/
def ofName? (text : Text) : Option ContextField :=
  (isInteractive :: texts).find? fun field => field.name.toList == text

/-- The other names of the facts. -/
def aliases : List (String × ContextField) :=
  [("interactive", .isInteractive), ("default_background_color", .background),
    ("background", .background), ("background_color", .background),
    ("default_text_color", .foreground), ("color", .foreground)]

/-- The fact of a name that is not canonical. -/
def ofAlias? (text : Text) : Option ContextField :=
  (aliases.find? fun entry => entry.1.toList == text).map (·.2)

end ContextField

inductive ContextError where
  /-- The context is not an object. -/
  | notObject (kindName : Text)
  /-- A fact has a value of the wrong kind. -/
  | wrongKind (field : ContextField) (kindName : Text)
  deriving DecidableEq, Repr

namespace ContextError

/-- The fact that is to blame, if one is. -/
def field? : ContextError → Option ContextField
  | .notObject _ => none
  | .wrongKind field _ => some field

def message : ContextError → Text
  | .notObject kindName => "context must be an object, got ".toList ++ kindName
  | .wrongKind .isInteractive kindName =>
      "is_interactive must be a bool, got ".toList ++ kindName
  | .wrongKind field kindName =>
      field.name.toList ++ " must be a string, got ".toList ++ kindName

end ContextError

/-- Facts about where declarations apply. -/
structure Context where
  isInteractive : Bool := false
  background : Option Text := none
  foreground : Option Text := none
  tag : Option Text := none
  selector : Option Text := none
  deriving DecidableEq, Repr

namespace Context

/-- The truth value of a fact. -/
def truthOf (field : ContextField) : Option Datum → Except ContextError Bool
  | none => .ok false
  | some (.bool value) => .ok value
  | some other => .error (.wrongKind field other.kindName)

def textOf (field : ContextField) : Option Datum → Except ContextError (Option Text)
  | none => .ok none
  | some .null => .ok none
  | some (.text value) => .ok (some value)
  | some other => .error (.wrongKind field other.kindName)

/-- The context of given facts; the first of the wrong kind is the error. -/
def ofFacts (facts : ContextField → Option Datum) : Except ContextError Context := do
  let isInteractive ← truthOf .isInteractive (facts .isInteractive)
  let background ← textOf .background (facts .background)
  let foreground ← textOf .foreground (facts .foreground)
  let tag ← textOf .tag (facts .tag)
  let selector ← textOf .selector (facts .selector)
  .ok { isInteractive, background, foreground, tag, selector }

/-- The facts after one more entry of a mapping.  A canonical name sets its
fact, another name sets it only if nothing did before. -/
def addEntry (facts : OrderedMap ContextField Datum) (entry : Scalar × Datum) :
    OrderedMap ContextField Datum :=
  match entry with
  | (_, .null) => facts
  | (.text key, value) =>
      match ContextField.ofName? key with
      | some field => OrderedMap.insert field value facts
      | none =>
          match ContextField.ofAlias? key with
          | some field =>
              if OrderedMap.hasKey facts field then facts
              else OrderedMap.insert field value facts
          | none => facts
  | _ => facts

/-- The context that a mapping describes.  Unknown names and absent values count
for nothing. -/
def ofEntries (entries : List (Scalar × Datum)) : Except ContextError Context :=
  ofFacts (OrderedMap.get? (entries.foldl addEntry []))

/-- The context that a datum describes. -/
def ofDatum : Datum → Except ContextError Context
  | .null => .ok {}
  | .object entries => ofEntries entries
  | other => .error (.notObject other.kindName)

def withSelector (context : Context) (selector : Datum) :
    Except ContextError Context := do
  let selector ← textOf .selector (some selector)
  .ok { context with selector }

def toDatum (context : Context) : Datum :=
  .record
    [("is_interactive", .bool context.isInteractive),
      ("default_background", .ofOption .text context.background),
      ("default_foreground", .ofOption .text context.foreground),
      ("tag", .ofOption .text context.tag),
      ("selector", .ofOption .text context.selector)]

end Context

end CssAudit
