import CssAudit.Accessibility.Issue
import CssAudit.Stylesheet.Rule

/-!
# Rules of whole style sheets

These rules look at all rule blocks at once and find at most one issue each,
never an error.
-/

namespace CssAudit

namespace Rules

/-- The number of importance flags that a style sheet may use. -/
def importantLimit : Nat := 5

def importantOverused (count : Nat) : Issue :=
  { severity := .info
    ruleId := "important_overuse".toList
    message := "Found ".toList ++ Text.ofNat count ++
      " uses of !important which may prevent user style overrides.".toList
    criterion := some "1.4.4".toList
    suggestion := some
      "Reduce !important usage to allow users to apply custom styles.".toList
    details := some (.count count) }

/-- The rule of importance flags. -/
def importantUse (sheet : Stylesheet) : List Issue :=
  if sheet.importantCount ≤ importantLimit then []
  else [importantOverused sheet.importantCount]

/-- Whether a rule disables the selection of text for a whole document. -/
def disablesSelection (rule : StyleRule) : Bool :=
  (Selector.isGlobal rule.selector || rule.selector.isEmpty) &&
    (rule.lowered "user-select" = "none".toList ||
      rule.lowered "-webkit-user-select" = "none".toList)

def selectionDisabled (rule : StyleRule) : Issue :=
  { severity := .warning
    ruleId := "text_selection_disabled".toList
    message := ("Disabling text selection may impact users with assistive " ++
      "technologies.").toList
    criterion := some "1.4.4".toList
    selector := rule.selector?
    suggestion := some
      "Only disable selection on interactive elements, not text content.".toList }

/-- The rule of text selection: the first rule block that disables it counts. -/
def textSelection (sheet : Stylesheet) : List Issue :=
  ((sheet.rules.find? disablesSelection).map selectionDisabled).toList

def pointerEventsDisabled (rule : StyleRule) : Issue :=
  { severity := .info
    ruleId := "pointer_events_disabled".toList
    message := "Disabling pointer events may impact accessibility.".toList
    level := .a
    criterion := some "2.1.1".toList
    selector := rule.selector?
    suggestion := some
      "Ensure disabled elements are communicated via ARIA attributes.".toList }

/-- The rule of pointer events: the first rule block that disables them counts. -/
def pointerEvents (sheet : Stylesheet) : List Issue :=
  ((sheet.rules.find? fun rule =>
    rule.lowered "pointer-events" = "none".toList).map pointerEventsDisabled).toList

end Rules

end CssAudit
