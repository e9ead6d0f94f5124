import CssAudit.Accessibility.Context
import CssAudit.Accessibility.Issue
import CssAudit.Accessibility.Typography
import CssAudit.Color.Contrast
import CssAudit.Stylesheet.Rule

/-!
# The contrast rule

The text color of a rule is compared with its background.  What the rule does
not declare, or declares as fully transparent, is taken from the context.  Too
little contrast for the middle level is an error, too little for the highest is
noted.
-/

namespace CssAudit

namespace Rules

/-- Whether a color cannot be known from its declaration. -/
def isUnresolvable (raw : Text) : Bool :=
  let keyword := (Text.trim raw).lower
  Value.isWideKeyword keyword || keyword = "currentcolor".toList

/-- The background that a rule declares; the shorthand counts if it is a single
color. -/
def declaredBackground? (rule : StyleRule) : Option Text :=
  match rule.get? "background-color" with
  | some background => some background
  | none => (rule.get? "background").filter fun raw => (Color.parse? raw).isSome

/-- Whether a color literal is fully transparent. -/
def isTransparent (raw : Text) : Bool :=
  (Color.parse? raw).any (·.isTransparent)

/-- The two colors that are compared, as written. -/
structure ColorPair where
  foreground : Text
  background : Text
  /-- Whether the background was declared, rather than given by the context. -/
  declaredBackground : Bool

/-- The colors that a rule compares, if it declares one of them and the others
are known. -/
def colorPair? (rule : StyleRule) (context : Context) : Option ColorPair := do
  let declared := declaredBackground? rule
  if (rule.get? "color").isNone && declared.isNone then none
  else
    let foreground ← (rule.get? "color").or context.foreground
    match declared.filter fun raw => !isTransparent raw with
    | some background => some ⟨foreground, background, true⟩
    | none =>
        let background ← context.background
        some ⟨foreground, background, false⟩

def unverifiableContrast (rule : StyleRule) (raw : Text) : Issue :=
  { severity := .warning
    ruleId := "contrast_unverifiable".toList
    message := "Could not verify color contrast: unrecognized color '".toList ++ raw ++
      "'.".toList
    criterion := some "1.4.3".toList
    selector := rule.selector?
    suggestion := some
      "Use hex, rgb() or hsl() colors so contrast can be checked.".toList }

def sizeLabel (large : Bool) : Text :=
  if large then "large".toList else "normal".toList

/-- The facts about two colors whose contrast is compared with a requirement. -/
def contrastFacts (pair : ColorPair) (large : Bool) (ratio required : Float) :
    ContrastFacts :=
  { foreground := pair.foreground
    background := pair.background
    ratio := Numeral.roundPlaces 2 ratio
    required
    largeText := large
    declaredBackground := pair.declaredBackground }

/-- The issue of too little contrast for the middle level. -/
def insufficientContrast (rule : StyleRule) (pair : ColorPair)
    (foreground background : Color) (large : Bool) (ratio : Float) : Issue :=
  let required := Level.requiredContrast .aa large
  { severity := .error
    ruleId := "insufficient_contrast".toList
    message := "Contrast ratio ".toList ++ Numeral.fixedText 2 ratio ++
      ":1 is below the required ".toList ++ Numeral.fixedText 1 required ++
      ":1 for WCAG AA (".toList ++ sizeLabel large ++ " text).".toList
    criterion := some "1.4.3".toList
    selector := rule.selector?
    suggestion := some (foreground.repair background required).message
    details := some (.contrast (contrastFacts pair large ratio required)) }

/-- The issue of too little contrast for the highest level. -/
def contrastBelowEnhanced (rule : StyleRule) (pair : ColorPair)
    (foreground background : Color) (large : Bool) (ratio : Float) : Issue :=
  let required := Level.requiredContrast .aaa large
  { severity := .info
    ruleId := "contrast_below_aaa".toList
    message := "Contrast ratio ".toList ++ Numeral.fixedText 2 ratio ++
      ":1 meets AA; ".toList ++ Numeral.fixedText 1 required ++
      ":1 is needed for AAA (".toList ++ sizeLabel large ++ " text).".toList
    level := .aaa
    criterion := some "1.4.6".toList
    selector := rule.selector?
    suggestion := some (foreground.repair background required).message
    details := some (.contrast (contrastFacts pair large ratio required)) }

/-- The issue of two colors that are understood, if there is one. -/
def contrastIssue? (rule : StyleRule) (pair : ColorPair)
    (foreground background : Color) (large : Bool) : Option Issue :=
  let ratio := foreground.contrast background
  if ratio < Level.requiredContrast .aa large then
    some (insufficientContrast rule pair foreground background large ratio)
  else if ratio < Level.requiredContrast .aaa large then
    some (contrastBelowEnhanced rule pair foreground background large ratio)
  else
    none

def contrast (rule : StyleRule) (context : Context) :
    Except Numeral.IntegerError (List Issue) :=
  match colorPair? rule context with
  | none => .ok []
  | some pair =>
      if isUnresolvable pair.foreground || isUnresolvable pair.background then
        .ok []
      else
        match Color.parse? pair.foreground, Color.parse? pair.background with
        | none, _ => .ok [unverifiableContrast rule pair.foreground]
        | some _, none => .ok [unverifiableContrast rule pair.background]
        | some foreground, some background => do
            let large ← Typography.isLarge rule.declarations
            .ok (contrastIssue? rule pair foreground background large).toList

end Rules

end CssAudit
