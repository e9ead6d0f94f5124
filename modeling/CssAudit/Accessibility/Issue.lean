import CssAudit.Accessibility.Level

/-!
# Issues

An issue is one finding about a rule block or a style sheet: how serious it is,
which rule found it, which criterion it concerns and what could be done.
-/

namespace CssAudit

/-- The facts behind a contrast issue. -/
structure ContrastFacts where
  foreground : Text
  background : Text
  ratio : Float
  required : Float
  largeText : Bool
  /-- Whether the background was declared, rather than given by the context. -/
  declaredBackground : Bool

/-- What a rule adds to its issue. -/
inductive Details where
  /-- The facts behind a contrast issue. -/
  | contrast (facts : ContrastFacts)
  /-- A font size in pixels. -/
  | fontSize (pixels : Float)
  /-- How often a flag is used. -/
  | count (uses : Nat)
  /-- An example of a repair. -/
  | example (repair : Text)
  /-- Anything else, by name. -/
  | entries (items : List (Scalar × Datum))

namespace Details

def toEntries : Details → List (Scalar × Datum)
  | .contrast facts =>
      [(.text "foreground".toList, .text facts.foreground),
        (.text "background".toList, .text facts.background),
        (.text "ratio".toList, .float facts.ratio),
        (.text "required".toList, .float facts.required),
        (.text "large_text".toList, .bool facts.largeText),
        (.text "background_source".toList,
          .text (if facts.declaredBackground then "declared".toList
            else "context".toList))]
  | .fontSize pixels => [(.text "font_size_px".toList, .float pixels)]
  | .count uses => [(.text "count".toList, .int uses)]
  | .example repair => [(.text "example".toList, .text repair)]
  | .entries items => items

/-- The example of a repair, if the details hold one. -/
def example? (details : Details) : Option Datum :=
  Datum.field? details.toEntries "example"

end Details

/-- A single finding. -/
structure Issue where
  severity : Severity
  ruleId : Text
  message : Text
  level : Level := .aa
  criterion : Option Text := none
  selector : Option Text := none
  suggestion : Option Text := none
  details : Option Details := none

namespace Issue

def isError (issue : Issue) : Bool := issue.severity = .error

def isWarning (issue : Issue) : Bool := issue.severity = .warning

def isInfo (issue : Issue) : Bool := issue.severity = .info

def toDatum (issue : Issue) : Datum :=
  .record
    [("severity", .text issue.severity.name), ("rule_id", .text issue.ruleId),
      ("wcag", .ofOption .text issue.criterion), ("level", .text issue.level.name),
      ("selector", .ofOption .text issue.selector), ("message", .text issue.message),
      ("suggestion", .ofOption .text issue.suggestion),
      ("details", .ofOption (fun details => .object details.toEntries) issue.details)]

/-- A text in front of a part that may be missing or empty, and one behind it. -/
def around (opening : String) (part : Option Text) (closing : Text) : Text :=
  match part with
  | some (c :: rest) => opening.toList ++ c :: rest ++ closing
  | _ => []

def line (issue : Issue) : Text :=
  Text.upper issue.severity.name ++ around " [" issue.selector "]".toList ++
    ": ".toList ++ issue.message ++
    around " (WCAG " issue.criterion (' ' :: issue.level.name ++ ")".toList)

end Issue

end CssAudit
