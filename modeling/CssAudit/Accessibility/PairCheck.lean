import CssAudit.Accessibility.Level
import CssAudit.Color.Contrast
import CssAudit.Color.Literal

/-!
# Checking a pair of colors

A foreground and a background are checked against the contrast that a level
requires.  A color that is not understood makes the check fail with an error.
-/

namespace CssAudit

/-- The outcome of checking a pair of colors. -/
structure PairCheck where
  passes : Bool
  ratio : Option Float
  required : Float
  level : Level
  largeText : Bool := false
  suggestion : Option Text := none
  error : Option Text := none

namespace PairCheck

def colorOf? (literal : Datum) : Option Color :=
  literal.text?.bind Color.parse?

def ofColors (foreground background : Color) (level : Level) (largeText : Bool) :
    PairCheck :=
  let required := level.requiredContrast largeText
  let ratio := foreground.contrast background
  let passes : Bool := required ≤ ratio
  { passes
    ratio := some ratio
    required
    level
    largeText
    suggestion :=
      if passes then none else some (foreground.repair background required).message }

/-- The outcome for colors that are not both understood. -/
def invalid (level : Level) (largeText : Bool) : PairCheck :=
  { passes := false
    ratio := none
    required := level.requiredContrast largeText
    level
    largeText
    error := some "Invalid color format".toList }

/-- The outcome for two color literals. -/
def run (foreground background : Datum) (level : Level) (largeText : Bool) :
    PairCheck :=
  match colorOf? foreground, colorOf? background with
  | some foreground, some background =>
      ofColors foreground background level largeText
  | _, _ => invalid level largeText

/-- The outcome as a datum, with the ratio rounded to two places. -/
def toDatum (check : PairCheck) : Datum :=
  .record
    [("passes", .bool check.passes),
      ("ratio", .ofOption (fun ratio => .float (Numeral.roundPlaces 2 ratio))
        check.ratio),
      ("required", .float check.required), ("level", .text check.level.name),
      ("large_text", .bool check.largeText),
      ("suggestion", .ofOption .text check.suggestion),
      ("error", .ofOption .text check.error)]

end PairCheck

end CssAudit
