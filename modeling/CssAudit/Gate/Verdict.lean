import CssAudit.Gate.Rejection
import CssAudit.Gate.Tables
import CssAudit.Value.Parser
import CssAudit.Value.Tokens

/-!
# Judging values

The value of an allowed property is accepted or refused by the first rule that
applies to it.  The components of a composite value are judged one by one up to
the first that is refused; the warnings about those before it are kept.
-/

namespace CssAudit

namespace Gate

/-- What the gate says about a value. -/
structure Verdict where
  rejection : Option Rejection
  warnings : List Warning
  deriving DecidableEq, Repr

namespace Verdict

/-- A value that a rule accepts. -/
def accept : Verdict := ⟨none, []⟩

/-- A value that a rule refuses. -/
def reject (cause : Rejection) : Verdict := ⟨some cause, []⟩

/-- A value that no rule can judge. -/
def doubt (warning : Warning) : Verdict := ⟨none, [warning]⟩

/-- The verdict on a value whose first part has this verdict and whose other
parts have the next. -/
def andThen (first next : Verdict) : Verdict :=
  match first.rejection with
  | some _ => first
  | none => ⟨next.rejection, first.warnings ++ next.warnings⟩

theorem accept_andThen (next : Verdict) : accept.andThen next = next := by
  simp [andThen, accept]

theorem andThen_assoc (first second third : Verdict) :
    (first.andThen second).andThen third = first.andThen (second.andThen third) := by
  unfold andThen
  cases first_case : first.rejection with
  | some cause => simp [first_case]
  | none => cases second_case : second.rejection <;> simp [second_case]

end Verdict

/-- Whether a name is that of a color property. -/
def takesColor (property : Text) : Bool :=
  Text.occursIn "color".toList property

/-- The rules that come first: values are not empty, call no URL, and are colors
or keywords where the property takes colors. -/
def judgeText? (property text : Text) (isColor : Bool) : Option Verdict :=
  if text.isEmpty then
    some (.reject (.emptyValue property))
  else if Value.mentionsUrl text then
    some (.reject (.urlValue property))
  else if takesColor property then
    if isColor || Value.isWideKeyword text.lower then some .accept
    else some (.reject (.invalidColor property text))
  else
    none

/-- The rule of the properties that take certain keywords. -/
def judgeKeyword? (property text : Text) : Option Verdict :=
  (keywordsOf? property).map fun keywords =>
    if listed keywords text.lower || Value.isWideKeyword text.lower then .accept
    else .reject (.invalidKeyword property text)

def judgeLength (property text : Text) (number : Float) (unit : Text) : Verdict :=
  if numberLimit < number.abs then
    .reject (.numberTooLarge property text)
  else if !unit.isEmpty && !listed allowedUnits unit then
    .reject (.invalidUnit property unit text)
  else
    .accept

def judgeFunction (property text name : Text) (balanced : Bool) : Verdict :=
  if !listed allowedFunctions name.lower then
    .reject (.invalidFunction property name)
  else if !balanced then
    .reject (.malformedFunction property text)
  else
    .accept

/-- The rules of components, by kind. -/
def judgeKind (property : Text) (component : Value.Component) : Verdict :=
  match component with
  | .length text number unit => judgeLength property text number unit
  | .unparsed text =>
      if Value.looksNumeric text then
        .reject (.invalidNumber property text)
      else
        (judgeKeyword? property text).getD (.doubt ⟨property, text⟩)
  | .function text name _ balanced =>
      (judgeKeyword? property text).getD (judgeFunction property text name balanced)
  | .keyword text =>
      (judgeKeyword? property text).getD
        (if Value.isWideKeyword text.lower then .accept else .doubt ⟨property, text⟩)
  | .color text _ => (judgeKeyword? property text).getD .accept

def isColor : Value.Component → Bool
  | .color _ _ => true
  | _ => false

def judgeComponent (property : Text) (component : Value.Component) : Verdict :=
  (judgeText? property component.text (isColor component)).getD
    (judgeKind property component)

def judgeParts (property : Text) : List Value.Component → Verdict
  | [] => .accept
  | part :: parts => (judgeComponent property part).andThen (judgeParts property parts)

def judge (property : Text) : Value → Verdict
  | .single component => judgeComponent property component
  | .composite text parts =>
      (judgeText? property text false).getD
        ((judgeKeyword? property text).getD (judgeParts property parts))

end Gate

end CssAudit
