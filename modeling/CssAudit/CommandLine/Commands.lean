import CssAudit.Accessibility.PairCheck
import CssAudit.Accessibility.Report
import CssAudit.CommandLine.Help
import CssAudit.CommandLine.Input
import CssAudit.Gate.InlineStyle
import CssAudit.Json.Writer

/-!
# Commands

Each command reads its arguments and its source, runs one capability of the
library and prints the result as lines or as JSON.  The exit code tells whether
the source passed.
-/

namespace CssAudit

namespace CommandLine

def jsonLines (fields : List (String × Datum)) : List Text :=
  [Json.write (.record fields)]

def rejectionLine (rejection : Gate.Rejection) : Text :=
  "ERROR [".toList ++ rejection.code ++ "]: ".toList ++ rejection.message

/-- The option for output as JSON. -/
def jsonOption (purpose : String) : CommandOption :=
  { names := ["--json"], purpose }

def validateOptions : List CommandOption :=
  [{ names := ["--strict", "--no-strict"], purpose := "Treat warnings as errors" },
    jsonOption "Print the result as JSON"]

def validate (world : World) (settings : Settings) (arguments : Arguments) :
    Run Outcome := do
  let source ← readSource world settings arguments
  let strict := (arguments.lastOf? "--strict" "--no-strict").getD settings.strict
  let declarations ← loadDeclarations source
  let result ← Run.ofInteger (Gate.validate declarations strict)
  let lines :=
    if arguments.has "--json" then
      jsonLines (("success", .bool result.ok) :: result.summary)
    else
      result.rejections.map rejectionLine ++
        result.warnings.map (fun warning => "WARNING: ".toList ++ warning.message) ++
        result.validated.map (fun entry =>
          "  ".toList ++ entry.1 ++ ": ".toList ++ entry.2) ++
        [[], "Summary: ".toList ++ Text.ofNat result.validated.length ++
          " accepted, ".toList ++ Text.ofNat result.rejections.length ++
          " error(s), ".toList ++ Text.ofNat result.warnings.length ++
          " warning(s)".toList]
  .ok (.ofLines result.ok lines)

def inline (world : World) (settings : Settings) (arguments : Arguments) :
    Run Outcome := do
  let source ← readSource world settings arguments
  let declarations ← loadDeclarations source
  let style ← Run.ofInteger (Gate.inlineStyle declarations)
  .ok (.ofLines true [style])

def contextOptions : List CommandOption :=
  [{ names := ["--interactive"], purpose := "The element receives keyboard focus" },
    { names := ["--background"]
      value := "TEXT".toList
      purpose := "Background color when none is declared" },
    { names := ["--foreground"]
      value := "TEXT".toList
      purpose := "Text color when none is declared" },
    { names := ["--tag"]
      value := "TEXT".toList
      purpose := "Element tag name, e.g. a" },
    { names := ["--selector"]
      value := "TEXT".toList
      purpose := "Selector the declarations belong to" }]

def contextOf (arguments : Arguments) : Context :=
  { isInteractive := arguments.has "--interactive"
    background := arguments.value? "--background"
    foreground := arguments.value? "--foreground"
    tag := arguments.value? "--tag"
    selector := arguments.value? "--selector" }

def issueLines (issue : Issue) : List Text :=
  issue.line ::
    ((issue.suggestion.filter fun advice => !advice.isEmpty).map fun advice =>
      "    suggestion: ".toList ++ advice).toList

/-- The name of a level, or a word for its absence. -/
def levelText (level : Option Level) : Text :=
  (level.map (·.name)).getD "none".toList

def complianceLines (report : Compliance) : List Text :=
  report.issues.flatMap issueLines ++
    [[], "Summary: ".toList ++ Text.ofNat report.errorCount ++ " error(s), ".toList ++
      Text.ofNat report.warningCount ++ " warning(s), ".toList ++
      Text.ofNat report.infoCount ++ " info; WCAG level: ".toList ++
      levelText report.level?]

/-- Whether a source is a declaration block or a JSON object, not a style sheet. -/
def holdsDeclarations (source : Text) : Bool :=
  let text := Text.trim source
  text.head? = some '{' || !text.elem '{'

/-- The compliance of a source, or the result of declarations that do not pass
the gate. -/
def complianceOf (source : Text) (context : Context) :
    Run (Except Gate.Result Compliance) := do
  if holdsDeclarations source then
    let declarations ← loadDeclarations (Text.trim source)
    let result ← Run.ofInteger (Gate.validate declarations false)
    if result.ok then
      let report ← Run.ofInteger
        (Check.declarations (.ofTexts result.validated) context)
      .ok (.ok report)
    else
      .ok (.error result)
  else
    let report ← Run.ofInteger (Check.stylesheet source context)
    .ok (.ok report)

def check (world : World) (settings : Settings) (arguments : Arguments) :
    Run Outcome := do
  let source ← readSource world settings arguments
  let asJson := arguments.has "--json"
  match ← complianceOf source (contextOf arguments) with
  | .error result =>
      .ok (.ofLines false
        (if asJson then jsonLines (("success", .bool false) :: result.summary)
          else result.rejections.map rejectionLine))
  | .ok report =>
      .ok (.ofLines report.passes
        (if asJson then
          jsonLines [("success", .bool true), ("result", report.toDatum)]
        else
          complianceLines report))

def suggestionLines (issue : Issue) : List Text :=
  [issue.line,
    "    example: ".toList ++
      (((issue.details.bind (·.example?)).bind (·.text?)).getD [])]

def suggest (world : World) (settings : Settings) (arguments : Arguments) :
    Run Outcome := do
  let source ← readSource world settings arguments
  let suggestions := Probe.suggest source
  .ok (.ofLines true
    (if arguments.has "--json" then
      jsonLines [("success", .bool true),
        ("suggestions", .list (suggestions.map (·.toDatum))),
        ("count", .int suggestions.length)]
    else if suggestions.isEmpty then
      ["No suggestions".toList]
    else
      suggestions.flatMap suggestionLines))

/-- The names of the levels among the choices of an option. -/
def levelChoices : List String := ["a", "aa", "aaa"]

def levelOption (purpose : String) : CommandOption :=
  { names := ["--level"], value := choiceWord levelChoices, purpose }

/-- The lines of a contrast check whose colors are understood. -/
def pairLines (check : PairCheck) (ratio : Float) : List Text :=
  ((if check.passes then "PASS: ".toList else "FAIL: ".toList) ++
    Numeral.fixedText 2 ratio ++ ":1 (WCAG ".toList ++ check.level.name ++
    " requires ".toList ++ Numeral.fixedText 1 check.required ++ ":1)".toList) ::
    (check.suggestion.map fun advice => "    suggestion: ".toList ++ advice).toList

def contrastOptions : List CommandOption :=
  [levelOption "WCAG level to check against",
    { names := ["--large-text"], purpose := "Use the large-text threshold" }]

def contrast (arguments : Arguments) : Run Outcome := do
  let level ← Run.ofUsage (arguments.choice? "--level" levelChoices)
  match arguments.positional with
  | [] => .error (.usage (.missingArgument "FOREGROUND"))
  | [_] => .error (.usage (.missingArgument "BACKGROUND"))
  | foreground :: background :: _ => do
      Run.ofUsage (arguments.atMost 2)
      let check := PairCheck.run (.text foreground) (.text background)
        (Level.ofTextOr .aa (level.getD [])) (arguments.has "--large-text")
      match check.error, check.ratio with
      | some message, _ => .error (.failure message)
      | none, none => .ok {}
      | none, some ratio => .ok (.ofLines check.passes (pairLines check ratio))

def recommendationLine (recommendation : Recommendation) : Text :=
  let issue := recommendation.issue
  "[".toList ++ recommendation.priority.name ++ "] ".toList ++ issue.ruleId ++
    ": ".toList ++ issue.message ++
    Issue.around " (WCAG " issue.criterion ")".toList

def reportLines (report : Report) : List Text :=
  ["Target: WCAG ".toList ++ report.target.name ++ "  Achieved: ".toList ++
      levelText report.compliance.level? ++ "  Meets target: ".toList ++
      (if report.meetsTarget then "yes".toList else "no".toList),
    []] ++
    report.recommendations.map recommendationLine ++
    [[], "Summary: ".toList ++ Text.ofNat report.compliance.issues.length ++
      " issue(s), ".toList ++ Text.ofNat report.suggestions.length ++
      " suggestion(s)".toList]

/-- Reports on a style sheet for a target level. -/
def report (world : World) (settings : Settings) (arguments : Arguments) :
    Run Outcome := do
  let level ← Run.ofUsage (arguments.choice? "--level" levelChoices)
  let source ← readSource world settings arguments
  let target := Level.ofTextOr .aa (level.getD settings.targetLevel)
  let report ← Run.ofInteger (Report.build source (contextOf arguments) target)
  .ok (.ofLines report.meetsTarget
    (if arguments.has "--json" then
      jsonLines [("success", .bool true), ("report", report.toDatum world.time)]
    else
      reportLines report))

/-- The address of the service: an empty host or a port of zero counts as not
given. -/
def serviceAddress (settings : Settings) (host : Option Text) (port : Option Int) :
    Text × Int :=
  ((host.filter fun name => !name.isEmpty).getD settings.host,
    (port.filter fun number => number ≠ 0).getD settings.port)

def serveOptions : List CommandOption :=
  [{ names := ["--host"]
     value := "TEXT".toList
     purpose := "Host to bind to (default: STYLEGATE_HOST or 127.0.0.1)" },
    { names := ["--port"]
      value := "INTEGER".toList
      purpose := "Port to bind to (default: STYLEGATE_PORT or 5000)" },
    { names := ["--debug", "--no-debug"], purpose := "Enable debug mode" }]

def serve (settings : Settings) (arguments : Arguments) : Run Outcome := do
  let port ← Run.ofUsage (arguments.integer? "--port")
  Run.ofUsage (arguments.atMost 0)
  let (host, port) := serviceAddress settings (arguments.value? "--host") port
  .ok (.ofLines true
    ["Starting stylegate on ".toList ++ host ++ ":".toList ++
      Numeral.integerText port])

end CommandLine

end CssAudit
