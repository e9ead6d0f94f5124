import CssAudit.Accessibility.Check
import CssAudit.Accessibility.Probe

/-!
# Reports

A report sets the compliance of a style sheet against a target level, adds the
suggestions of the probes and ranks all findings by priority.
-/

namespace CssAudit

/-- How urgent a recommendation is. -/
inductive Priority where
  | high
  | medium
  | low
  deriving DecidableEq, Repr

def Priority.name : Priority → Text
  | .high => "high".toList
  | .medium => "medium".toList
  | .low => "low".toList

/-- An issue with its priority. -/
structure Recommendation where
  priority : Priority
  issue : Issue

def Recommendation.toDatum (recommendation : Recommendation) : Datum :=
  let issue := recommendation.issue
  .record
    ([("priority", .text recommendation.priority.name), ("rule_id", .text issue.ruleId),
      ("wcag", .ofOption .text issue.criterion), ("message", .text issue.message),
      ("suggestion", .ofOption .text issue.suggestion)] ++
      ((issue.details.bind (·.example?)).map fun repair => ("example", repair)).toList)

/-- The recommendations of a check and of the probes: errors first, then warnings
unless the target is the lowest level, then suggestions. -/
def recommendations (compliance : Compliance) (suggestions : List Issue)
    (target : Level) : List Recommendation :=
  compliance.errors.map (⟨.high, ·⟩) ++
    (if target = .a then []
      else (compliance.issues.filter (·.isWarning)).map (⟨.medium, ·⟩)) ++
    suggestions.map (⟨.low, ·⟩)

/-- The findings about a style sheet, ranked for a target level. -/
structure Report where
  compliance : Compliance
  suggestions : List Issue
  target : Level
  recommendations : List Recommendation

namespace Report

/-- The report on the text of a style sheet. -/
def build (source : Text) (context : Context) (target : Level) :
    Except Numeral.IntegerError Report := do
  let compliance ← Check.stylesheet source context
  let suggestions := Probe.suggest source
  .ok
    { compliance
      suggestions
      target
      recommendations := CssAudit.recommendations compliance suggestions target }

def meetsTarget (report : Report) : Bool :=
  CssAudit.meetsTarget report.compliance.level? report.target

def summary (report : Report) : Datum :=
  .record
    [("passes", .bool report.compliance.passes),
      ("achieved_level",
        .ofOption (fun level => .text level.name) report.compliance.level?),
      ("target_level", .text report.target.name),
      ("meets_target", .bool report.meetsTarget),
      ("total_issues", .int report.compliance.issues.length),
      ("error_count", .int report.compliance.errorCount),
      ("warning_count", .int report.compliance.warningCount),
      ("info_count", .int report.compliance.infoCount)]

def fields (report : Report) : List (String × Datum) :=
  [("summary", report.summary),
    ("issues", .list (report.compliance.issues.map (·.toDatum))),
    ("suggestions", .list (report.suggestions.map (·.toDatum))),
    ("recommendations", .list (report.recommendations.map (·.toDatum)))]

/-- The report as a datum, with the time at which it was built. -/
def toDatum (report : Report) (time : Text) : Datum :=
  .record (report.fields ++ [("generated_at", .text time)])

end Report

end CssAudit
