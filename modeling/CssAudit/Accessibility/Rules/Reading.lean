import CssAudit.Accessibility.Issue
import CssAudit.Accessibility.Typography
import CssAudit.Stylesheet.Rule

/-!
# Rules of readable text

Text needs a minimal size, enough space between its lines and enough opacity.
-/

namespace CssAudit

namespace Rules

/-- The font size below which text is too small, in pixels. -/
def minimalSize : Float := 12

/-- The font size below which text is small, in pixels. -/
def smallSize : Float := 14

def unverifiableSize (rule : StyleRule) (raw : Text) : Issue :=
  { severity := .warning
    ruleId := "font_size_unverifiable".toList
    message := "Could not validate font size: ".toList ++ raw
    criterion := some "1.4.4".toList
    selector := rule.selector? }

def sizeTooSmall (rule : StyleRule) (size : Float) : Issue :=
  { severity := .error
    ruleId := "font_too_small".toList
    message := "Font size ".toList ++ Numeral.fixedText 1 size ++
      "px is below the minimum of 12px.".toList
    criterion := some "1.4.4".toList
    selector := rule.selector?
    suggestion := some "Use at least 12px, preferably 16px, for body text.".toList
    details := some (.fontSize (Numeral.roundPlaces 2 size)) }

def sizeSmall (rule : StyleRule) (size : Float) : Issue :=
  { severity := .warning
    ruleId := "font_small".toList
    message := "Font size is small (".toList ++ Numeral.fixedText 0 size ++
      "px). Consider at least 14px.".toList
    criterion := some "1.4.4".toList
    selector := rule.selector?
    suggestion := some "Use 14px or larger for better readability.".toList
    details := some (.fontSize (Numeral.roundPlaces 2 size)) }

def fontSize (rule : StyleRule) : List Issue :=
  match rule.get? "font-size" with
  | none => []
  | some raw =>
      if Value.isWideKeyword (Text.trim raw).lower then
        []
      else
        match Typography.fontSize? raw with
        | none => [unverifiableSize rule raw]
        | some size =>
            if size < minimalSize then [sizeTooSmall rule size]
            else if size < smallSize then [sizeSmall rule size]
            else []

def tightLines (rule : StyleRule) (height : Float) : Issue :=
  { severity := .warning
    ruleId := "tight_line_height".toList
    message := "Line height ".toList ++ Numeral.fixedText 2 height ++
      " is below the recommended 1.5 for readability.".toList
    criterion := some "1.4.12".toList
    selector := rule.selector?
    suggestion := some "Use line-height of at least 1.5 for paragraph text.".toList }

/-- The rule of line heights, which concerns plain numbers and percentages. -/
def lineHeight (rule : StyleRule) : List Issue :=
  match (rule.get? "line-height").bind Typography.proportion? with
  | none => []
  | some height => if 1.5 ≤ height then [] else [tightLines rule height]

def lowOpacity (rule : StyleRule) (opacity : Float) : Issue :=
  { severity := .warning
    ruleId := "low_opacity".toList
    message := "Low opacity (".toList ++ Numeral.fixedText 2 opacity ++
      ") may affect text readability.".toList
    criterion := some "1.4.3".toList
    selector := rule.selector?
    suggestion := some ("Keep text at 0.5 opacity or above, or check contrast " ++
      "against the blended color.").toList }

def opacity (rule : StyleRule) : List Issue :=
  match (rule.get? "opacity").bind Typography.proportion? with
  | none => []
  | some value => if 0.5 ≤ value then [] else [lowOpacity rule value]

end Rules

end CssAudit
