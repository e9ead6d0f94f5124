import CssAudit.Accessibility.Issue

/-!
# Compliance

A compliance report is the list of issues of a check.  Its counts, its verdict
and the level it achieves are read off the list.
-/

namespace CssAudit

/-- The outcome of a check. -/
structure Compliance where
  issues : List Issue

/-- The level that issues leave: one below the lowest level with an error, none
if that is the lowest of all, and the highest if there is no error. -/
def achievedLevel (issues : List Issue) : Option Level :=
  let failed := (issues.filter (·.isError)).map (·.level)
  if failed.elem .a then none
  else if failed.elem .aa then some .a
  else if failed.elem .aaa then some .aa
  else some .aaa

/-- Whether an achieved level reaches a target. -/
def meetsTarget (achieved : Option Level) (target : Level) : Bool :=
  achieved.any fun level => target.rank ≤ level.rank

namespace Compliance

def errorCount (report : Compliance) : Nat :=
  report.issues.countP (·.isError)

def warningCount (report : Compliance) : Nat :=
  report.issues.countP (·.isWarning)

def infoCount (report : Compliance) : Nat :=
  report.issues.countP (·.isInfo)

def passes (report : Compliance) : Bool :=
  report.errorCount == 0

/-- The level that the report achieves. -/
def level? (report : Compliance) : Option Level :=
  achievedLevel report.issues

def errors (report : Compliance) : List Issue :=
  report.issues.filter (·.isError)

def byRule (report : Compliance) (ruleId : Text) : List Issue :=
  report.issues.filter fun issue => issue.ruleId == ruleId

def toDatum (report : Compliance) : Datum :=
  .record
    [("passes", .bool report.passes),
      ("issues", .list (report.issues.map (·.toDatum))),
      ("error_count", .int report.errorCount),
      ("warning_count", .int report.warningCount),
      ("info_count", .int report.infoCount),
      ("achieved_level", .ofOption (fun level => .text level.name) report.level?)]

end Compliance

end CssAudit
