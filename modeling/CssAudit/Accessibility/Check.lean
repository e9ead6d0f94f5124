import CssAudit.Accessibility.Compliance
import CssAudit.Accessibility.Rules.Contrast
import CssAudit.Accessibility.Rules.Keyboard
import CssAudit.Accessibility.Rules.Reading
import CssAudit.Accessibility.Rules.WholeSheet
import CssAudit.Datum

/-!
# Checking declarations and style sheets

The rules of rule blocks run over each block, and then the rules of whole style
sheets run once.  A batch of declarations is checked as a style sheet of one
block.
-/

namespace CssAudit

namespace Check

/-- A declaration of a batch with its name in lower case. -/
def declaration? (entry : Scalar × Datum) :
    Except Numeral.IntegerError (Option (Text × Text)) := do
  match ← Batch.valueText? entry.2 with
  | none => .ok none
  | some value =>
      let name ← entry.1.toText
      .ok (some ((Text.trim name).lower, value))

/-- The rule block of a batch of declarations. -/
def ruleOf (batch : Batch) (selector : Option Text) :
    Except Numeral.IntegerError StyleRule := do
  let usable ← batch.mapM declaration?
  .ok (.ofDeclarations (Text.trim (selector.getD [])) (usable.filterMap id))

def blockIssues (rule : StyleRule) (context : Context) :
    Except Numeral.IntegerError (List Issue) := do
  let contrastIssues ← Rules.contrast rule context
  .ok (contrastIssues ++ Rules.fontSize rule ++ Rules.focusOutline rule context ++
    Rules.keyboard rule context ++ Rules.lineHeight rule ++
    Rules.linkUnderline rule context ++ Rules.opacity rule)

def sheetIssues (sheet : Stylesheet) : List Issue :=
  Rules.importantUse sheet ++ Rules.textSelection sheet ++ Rules.pointerEvents sheet

/-- The compliance of a batch of declarations. -/
def declarations (batch : Batch) (context : Context) :
    Except Numeral.IntegerError Compliance := do
  let rule ← ruleOf batch context.selector
  let issues ← blockIssues rule context
  .ok ⟨issues ++ sheetIssues ⟨[rule]⟩⟩

def sheet (sheet : Stylesheet) (context : Context) :
    Except Numeral.IntegerError Compliance := do
  let issues ← sheet.rules.mapM fun rule =>
    blockIssues rule { context with selector := some rule.selector }
  .ok ⟨issues.flatten ++ sheetIssues sheet⟩

/-- The compliance of the text of a style sheet. -/
def stylesheet (source : Text) (context : Context) :
    Except Numeral.IntegerError Compliance :=
  sheet (.parse source) context

end Check

end CssAudit
