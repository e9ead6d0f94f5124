import CssAudit.Accessibility.PairCheck
import CssAudit.Accessibility.Report
import CssAudit.Gate.InlineStyle
import CssAudit.Json.Reader
import CssAudit.Settings

/-!
# The service

The service answers requests with JSON: it validates declarations, renders them
inline, checks style sheets and color pairs, lists suggestions and builds
reports.  Requests are answered one by one from the settings alone.
-/

namespace CssAudit

namespace Service

/-- A request to the service. -/
structure Request where
  method : Text
  path : Text
  contentType : Text
  body : Text

/-- The answer to a request. -/
structure Response where
  status : Nat
  /-- The JSON of the body, if it has one. -/
  body : Option Datum
  /-- Whether the path and the method belong to the service, whose answers any
  origin may read. -/
  routed : Bool := true

/-- The headers that let any origin read an answer. -/
def crossOriginHeaders : List (Text × Text) :=
  [("Access-Control-Allow-Origin".toList, "*".toList),
    ("Access-Control-Allow-Headers".toList, "Content-Type".toList),
    ("Access-Control-Allow-Methods".toList, "GET, POST, OPTIONS".toList)]

def Response.headers (response : Response) : List (Text × Text) :=
  if response.routed then crossOriginHeaders else []

/-- An answer with the parts of a JSON object. -/
def answer (status : Nat) (fields : List (String × Datum)) : Response :=
  { status, body := some (.record fields) }

def failure (status : Nat) (message : Text) : Response :=
  answer status [("success", .bool false), ("error", .text message)]

def success (fields : List (String × Datum)) : Response :=
  answer 200 (("success", .bool true) :: fields)

/-- The answer when a value breaks the handling off. -/
def breakdown : Response := { status := 500, body := none }

/-- The parts of the JSON object that a body holds. -/
abbrev Fields := List (Scalar × Datum)

def isJsonType (contentType : Text) : Bool :=
  let mimeType := (Text.trim (contentType.takeWhile (· ≠ ';'))).lower
  mimeType = "application/json".toList ||
    ("application/".toList.isPrefixOf mimeType && "+json".toList.isSuffixOf mimeType)

/-- The parts of a body: none unless it is a JSON object. -/
def readFields (body : Text) : Fields :=
  match Json.read ((Text.dropPrefix? ['\uFEFF'] body).getD body) with
  | .ok (.object entries) => entries
  | _ => []

/-- The parts of the body of a request, or the answer to a body that is too
large.  A body that is not declared as JSON is not read. -/
def fieldsOf (settings : Settings) (request : Request) : Except Response Fields :=
  if !isJsonType request.contentType then
    .ok []
  else if settings.maxCssBytes * 2 < Text.byteCount request.body then
    .error (failure 413 "Request body too large".toList)
  else
    .ok (readFields request.body)

def declarations? (fields : Fields) : Option Batch :=
  match Datum.field? fields "css" with
  | some (.object (entry :: entries)) => some (entry :: entries)
  | _ => none

def stylesheet? (fields : Fields) : Option Text :=
  match Datum.field? fields "css" with
  | some (.text source) => if (Text.trim source).isEmpty then none else some source
  | _ => none

/-- The style sheet among the parts of a body, or the answer to one that is
missing or too large. -/
def stylesheetWithin (settings : Settings) (fields : Fields) : Except Response Text :=
  match stylesheet? fields with
  | none => .error (failure 400 "css is required".toList)
  | some source =>
      if settings.maxCssBytes < Text.byteCount source then
        .error (failure 413 "CSS exceeds the maximum allowed size".toList)
      else
        .ok source

/-- The declarations among the parts of a body, or the answer to missing ones. -/
def declarationsOf (fields : Fields) : Except Response Batch :=
  match declarations? fields with
  | some batch => .ok batch
  | none => .error
      (failure 400 "css must be a non-empty object of property: value pairs".toList)

/-- A truth value among the parts of a body, or the answer to another value. -/
def truthOf (fields : Fields) (name : String) (default : Bool) : Except Response Bool :=
  match Datum.field? fields name with
  | none => .ok default
  | some (.bool value) => .ok value
  | some _ => .error (failure 400 (name.toList ++ " must be a boolean".toList))

/-- The context among the parts of a body, or the answer to a refused one. -/
def contextOf (fields : Fields) : Except Response Context :=
  (Context.ofDatum ((Datum.field? fields "context").getD .null)).mapError fun cause =>
    failure 400 cause.message

/-- The result of a conversion, or the answer to one that breaks off. -/
def converted (result : Except Numeral.IntegerError α) : Except Response α :=
  result.mapError fun _ => breakdown

def validated (result : Gate.Result) : Response :=
  answer (if result.ok then 200 else 400) (("success", .bool result.ok) :: result.summary)

def validate (settings : Settings) (fields : Fields) : Except Response Response := do
  let batch ← declarationsOf fields
  let strict ← truthOf fields "strict" settings.strict
  let result ← converted (Gate.validate batch strict)
  .ok (validated result)

def inlineStyle (fields : Fields) : Except Response Response := do
  let batch ← declarationsOf fields
  let style ← converted (Gate.inlineStyle batch)
  .ok (success [("style", .text style)])

/-- Checks a batch of declarations after validating it. -/
def checkDeclarations (batch : Batch) (context : Context) :
    Except Response Response := do
  let result ← converted (Gate.validate batch false)
  if result.ok then
    let report ← converted (Check.declarations (.ofTexts result.validated) context)
    .ok (success [("result", report.toDatum)])
  else
    .ok (validated result)

def check (settings : Settings) (fields : Fields) : Except Response Response := do
  let context ← contextOf fields
  match declarations? fields with
  | some batch => checkDeclarations batch context
  | none => do
      let source ← stylesheetWithin settings fields
      let report ← converted (Check.stylesheet source context)
      .ok (success [("result", report.toDatum)])

def contrast (fields : Fields) : Except Response Response :=
  match Datum.field? fields "foreground", Datum.field? fields "background" with
  | some (.text foreground), some (.text background) => do
      let largeText ← truthOf fields "large_text" false
      let level := Level.ofDatumOr .aa ((Datum.field? fields "level").getD .null)
      let check := PairCheck.run (.text foreground) (.text background) level largeText
      match check.error with
      | some message => .ok (failure 400 message)
      | none => .ok (success [("result", check.toDatum)])
  | _, _ => .ok (failure 400 "foreground and background colors are required".toList)

def suggestions (settings : Settings) (fields : Fields) : Except Response Response := do
  let source ← stylesheetWithin settings fields
  let issues := Probe.suggest source
  .ok (success [("suggestions", .list (issues.map (·.toDatum))),
    ("count", .int issues.length)])

/-- Whether a datum counts as not given. -/
def isVoid : Datum → Bool
  | .null => true
  | .bool value => !value
  | .scalar (.number value) => value.isZero
  | .text value => value.isEmpty
  | .list items => items.isEmpty
  | .object entries => entries.isEmpty

/-- The target level of a report: that of the request, or else of the settings. -/
def targetOf (settings : Settings) (fields : Fields) : Level :=
  match (Datum.field? fields "level").filter fun level => !isVoid level with
  | some level => Level.ofDatumOr .aa level
  | none => Level.ofTextOr .aa settings.targetLevel

def report (time : Text) (settings : Settings) (fields : Fields) :
    Except Response Response := do
  let source ← stylesheetWithin settings fields
  let context ← contextOf fields
  let report ← converted (Report.build source context (targetOf settings fields))
  .ok (success [("report", report.toDatum time)])

def health : Response :=
  answer 200 [("status", .text "ok".toList), ("version", .text version)]

/-- The handlers of the requests that carry a body, by path. -/
def handlers (time : Text) :
    List (String × (Settings → Fields → Except Response Response)) :=
  [("/api/validate", validate), ("/api/inline-style", fun _ => inlineStyle),
    ("/api/accessibility/check", check),
    ("/api/accessibility/contrast", fun _ => contrast),
    ("/api/accessibility/suggestions", suggestions),
    ("/api/accessibility/report", report time)]

/-- An answer without a body to a request that the service does not know. -/
def unrouted (status : Nat) : Response := { status, body := none, routed := false }

/-- The answer about the methods of a path. -/
def options : Response := { status := 200, body := none }

def respondHealth (method : Text) : Response :=
  if method = "GET".toList then health
  else if method = "HEAD".toList then { health with body := none }
  else if method = "OPTIONS".toList then options
  else unrouted 405

def respond (time : Text) (settings : Settings) (request : Request) : Response :=
  let path := request.path.takeWhile (· ≠ '?')
  if path = "/api/health".toList then
    respondHealth request.method
  else
    match (handlers time).find? fun handler => handler.1.toList == path with
    | none => unrouted 404
    | some handler =>
        if request.method = "POST".toList then
          match fieldsOf settings request >>= handler.2 settings with
          | .ok response => response
          | .error response => response
        else if request.method = "OPTIONS".toList then
          options
        else
          unrouted 405

end Service

end CssAudit
