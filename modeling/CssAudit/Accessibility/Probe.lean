import CssAudit.Accessibility.Issue
import CssAudit.Text.Word
import CssAudit.Value.Tokens

/-!
# Probes

A probe looks for one sign of trouble in the raw text of a style sheet, without
parsing it, and suggests a repair with an example.  Probes see the text inside
of any block and overlap with the rules on purpose.
-/

namespace CssAudit

namespace Probe

/-- An issue for information that carries an example of a repair. -/
def suggestion (ruleId : String) (message : Text) (level : Level)
    (criterion advice repair : String) : Issue :=
  { severity := .info
    ruleId := ruleId.toList
    message
    level
    criterion := some criterion.toList
    suggestion := some advice.toList
    details := some (.example repair.toList) }

/-- Whether a phrase occurs in a text, in any case. -/
def mentions (phrase : String) (source : Text) : Bool :=
  Text.occursIn phrase.toList source.lower

/-- What follows a colon after blanks. -/
def dropColon? (text : Text) : Option Text :=
  Text.dropPrefix? [':'] (Text.trimStart text)

/-- The probe of style sheets without focus styles. -/
def missingFocus (source : Text) : Option Issue :=
  if mentions ":focus" source then none
  else some (suggestion "missing_focus_styles"
    ("No focus styles detected. Users navigating with keyboard need visible focus " ++
      "indicators.").toList
    .aa "2.4.7"
    "Add :focus styles with outline or box-shadow for interactive elements."
    ":focus \x7b outline: 2px solid #007cba; outline-offset: 2px; \x7d")

def hoverOnly (source : Text) : Option Issue :=
  if mentions ":hover" source && !mentions ":focus" source then
    some (suggestion "hover_without_focus"
      "Found :hover styles without corresponding :focus styles.".toList
      .a "2.1.1" "Add :focus styles alongside :hover for keyboard accessibility."
      ":hover, :focus \x7b /* your styles */ \x7d")
  else
    none

/-- Whether a character may continue the name of a motion property. -/
def isMotionNameChar (c : Char) : Bool :=
  Text.isFoldedLetter c || c = '-'

/-- Whether a declaration of a motion property starts with a text. -/
def startsMotion (text : Text) : Bool :=
  ["animation", "transition"].any fun name =>
    match Text.dropFolded? name.toList text with
    | some rest => (dropColon? (rest.dropWhile isMotionNameChar)).isSome
    | none => false

/-- Whether a test holds where a word starts, after a word character or not. -/
def atWordStart (test : Text → Bool) (afterWord : Bool) : Text → Bool
  | [] => false
  | c :: rest =>
      (!afterWord && test (c :: rest)) || atWordStart test (Text.isWord c) rest

def unguardedMotion (source : Text) : Option Issue :=
  if atWordStart startsMotion false source &&
      !mentions "prefers-reduced-motion" source then
    some (suggestion "animation_no_reduced_motion"
      "Animations detected without prefers-reduced-motion media query.".toList
      .aaa "2.3.3"
      ("Respect user preferences by disabling animations for users who prefer " ++
        "reduced motion.")
      ("@media (prefers-reduced-motion: reduce) \x7b * \x7b animation: none " ++
        "!important; transition: none !important; \x7d \x7d"))
  else
    none

/-- The number at the start of a text, with or without a fraction, and what
follows it. -/
def plainNumber? (text : Text) : Option (Float × Text) :=
  let (whole, rest) := text.span Text.isDecimal
  if whole.isEmpty then none
  else
    let fraction :=
      match rest with
      | '.' :: after => (after.span Text.isDecimal).1
      | _ => []
    if fraction.isEmpty then some (Numeral.ofDigitTexts whole [], rest)
    else some (Numeral.ofDigitTexts whole fraction, rest.drop (fraction.length + 1))

/-- The pixels per unit at the start of a text, if the unit ends there. -/
def leadingUnit? (text : Text) : Option Float :=
  [("px", 1), ("pt", 1.333)].findSome? fun unit => do
    let rest ← Text.dropFolded? unit.1.toList text
    if Text.endsWord rest then some unit.2 else none

/-- The pixels of the font size that is declared at the start of a text. -/
def leadingFontSize? (text : Text) : Option Float := do
  let rest ← dropColon? (← Text.dropFolded? "font-size".toList text)
  let (number, unitText) ← plainNumber? (Text.trimStart rest)
  let factor ← leadingUnit? unitText
  some (number * factor)

/-- The first font size in pixels or points that a text declares, in pixels. -/
def firstFontSize? : Text → Option Float
  | [] => none
  | c :: rest => (leadingFontSize? (c :: rest)).or (firstFontSize? rest)

/-- The probe of small fonts, which looks at the first font size only. -/
def smallFont (source : Text) : Option Issue := do
  let size ← firstFontSize? source
  if 12 ≤ size then none
  else some (suggestion "font_too_small"
    ("Font size ".toList ++ Numeral.fixedText 1 size ++
      "px is below minimum recommended size.".toList)
    .aa "1.4.4" "Use at least 12px, preferably 16px, for body text."
    "font-size: 1rem; /* or 16px */")

/-- Whether a character may stand inside a declaration. -/
def isInsideDeclaration (c : Char) : Bool :=
  c ≠ ';' && c ≠ '{' && c ≠ '}'

/-- Whether a declaration of a background image starts with a text. -/
def startsBackgroundImage (text : Text) : Bool :=
  ((Text.dropFolded? "background-image".toList text).bind dropColon?).isSome ||
    ((Text.dropFolded? "background".toList text).bind dropColon?).any fun rest =>
      Value.mentionsUrl (rest.takeWhile isInsideDeclaration)

def textOverImage (source : Text) : Option Issue :=
  if Text.anywhere startsBackgroundImage source then
    some (suggestion "text_over_image"
      "Background image detected. Ensure text remains readable.".toList
      .aa "1.4.3" "Add a solid background color fallback or text shadow for contrast."
      ("background: linear-gradient(rgba(0,0,0,0.5), rgba(0,0,0,0.5)), " ++
        "url(image.jpg);"))
  else
    none

/-- Whether a fixed position is declared at the start of a text. -/
def startsFixed (text : Text) : Bool :=
  ((Text.dropFolded? "position".toList text).bind dropColon?).any fun rest =>
    (Text.dropFolded? "fixed".toList (Text.trimStart rest)).isSome

def fixedPosition (source : Text) : Option Issue :=
  if Text.anywhere startsFixed source then
    some (suggestion "fixed_positioning"
      "Fixed positioning may cause issues for users with screen magnifiers.".toList
      .aa "1.4.10" "Ensure fixed elements do not block content or navigation."
      "Consider sticky positioning or ensuring adequate spacing.")
  else
    none

/-- The colors that are taken for signals. -/
def signalColors : List String :=
  ["red", "green", "#f00", "#0f0", "#ff0000", "#00ff00"]

/-- Whether a signal color is declared at the start of a text. -/
def startsSignal (text : Text) : Bool :=
  ((Text.dropFolded? "color".toList text).bind dropColon?).any fun rest =>
    signalColors.any fun color =>
      (Text.dropFolded? color.toList (Text.trimStart rest)).any Text.endsWord

def colorSignal (source : Text) : Option Issue :=
  if Text.anywhere startsSignal source then
    some (suggestion "color_only_info"
      "Color alone should not be used to convey information.".toList
      .a "1.4.1" "Combine color with text, icons, or patterns for status indicators."
      "Use icons or text labels alongside color changes.")
  else
    none

def all : List (Text → Option Issue) :=
  [missingFocus, hoverOnly, unguardedMotion, smallFont, textOverImage, fixedPosition,
    colorSignal]

/-- The suggestions of all probes for a style sheet. -/
def suggest (source : Text) : List Issue :=
  all.filterMap fun probe => probe source

end Probe

end CssAudit
