import CssAudit.Accessibility.Context
import CssAudit.Accessibility.Issue
import CssAudit.Stylesheet.Rule

/-!
# Rules of focus, keyboard and links

The focused element must stay visible, interactive elements must stay within
reach of the keyboard, and links must not be told by color alone.
-/

namespace CssAudit

namespace Rules

def removesOutline (rule : StyleRule) : Bool :=
  let outline := rule.lowered "outline"
  outline = "none".toList || outline = "0".toList || outline = "0px".toList

/-- Whether a rule applies to focused elements. -/
def appliesOnFocus (rule : StyleRule) (context : Context) : Bool :=
  Selector.targetsFocus rule.selector ||
    (rule.selector.isEmpty && context.isInteractive)

def outlineReplaced (rule : StyleRule) : Issue :=
  { severity := .info
    ruleId := "focus_outline_replaced".toList
    message := ("Outline removed on focus; make sure the border or box-shadow " ++
      "change is clearly visible.").toList
    criterion := some "2.4.7".toList
    selector := rule.selector?
    suggestion := some
      "Consider adding a visible focus indicator to replace outline.".toList }

def outlineRemoved (rule : StyleRule) : Issue :=
  { severity := .error
    ruleId := "focus_outline_removed".toList
    message := "Removing outline on focus breaks keyboard navigation visibility.".toList
    criterion := some "2.4.7".toList
    selector := rule.selector?
    suggestion := some
      "Replace with a visible alternative like box-shadow or a custom outline.".toList }

def focusOutline (rule : StyleRule) (context : Context) : List Issue :=
  if removesOutline rule && appliesOnFocus rule context then
    if (rule.get? "border").isSome || (rule.get? "box-shadow").isSome then
      [outlineReplaced rule]
    else
      [outlineRemoved rule]
  else
    []

def notDisplayed (rule : StyleRule) : Issue :=
  { severity := .error
    ruleId := "keyboard_display_none".toList
    message := ("Interactive element hidden with display:none breaks keyboard " ++
      "navigation.").toList
    level := .a
    criterion := some "2.1.1".toList
    selector := rule.selector?
    suggestion := some ("Hide visually with a screen-reader-only class instead, or " ++
      "remove the element from the tab order deliberately.").toList }

def notVisible (rule : StyleRule) : Issue :=
  { severity := .error
    ruleId := "keyboard_visibility_hidden".toList
    message := ("Interactive element hidden with visibility:hidden breaks keyboard " ++
      "navigation.").toList
    level := .a
    criterion := some "2.1.1".toList
    selector := rule.selector? }

def noPointerEvents (rule : StyleRule) : Issue :=
  { severity := .warning
    ruleId := "keyboard_pointer_events".toList
    message := ("pointer-events:none may affect keyboard navigation on interactive " ++
      "elements.").toList
    level := .a
    criterion := some "2.1.1".toList
    selector := rule.selector? }

/-- The rule of the keyboard, which concerns interactive elements. -/
def keyboard (rule : StyleRule) (context : Context) : List Issue :=
  if context.isInteractive then
    (if rule.lowered "display" = "none".toList then [notDisplayed rule] else []) ++
      (if rule.lowered "visibility" = "hidden".toList then [notVisible rule] else []) ++
      (if rule.lowered "pointer-events" = "none".toList then [noPointerEvents rule]
        else [])
  else
    []

def underlineRemoved (rule : StyleRule) : Issue :=
  { severity := .warning
    ruleId := "link_underline_removed".toList
    message := "Removing underline from links may make them less recognizable.".toList
    level := .a
    criterion := some "1.4.1".toList
    selector := rule.selector?
    suggestion := some ("Use another visual indicator (e.g., border-bottom) or " ++
      "ensure the link color contrasts with surrounding text.").toList }

def appliesToLinks (rule : StyleRule) (context : Context) : Bool :=
  Selector.targetsLink rule.selector ||
    (Text.trim (context.tag.getD [])).lower = ['a']

/-- The text decoration of a rule: the shorthand, or else the line. -/
def decoration (rule : StyleRule) : Text :=
  let shorthand := rule.lowered "text-decoration"
  if shorthand.isEmpty then rule.lowered "text-decoration-line" else shorthand

def linkUnderline (rule : StyleRule) (context : Context) : List Issue :=
  if appliesToLinks rule context && decoration rule = "none".toList then
    [underlineRemoved rule]
  else
    []

end Rules

end CssAudit
