import CssAudit.Gate.Sanitize
import CssAudit.Gate.Verdict

/-!
# Validating a batch

A danger anywhere refuses the whole batch.  Otherwise every declaration is
judged on its own: those of allowed properties with accepted values survive in
normal form, and each of the others leaves a rejection.
-/

namespace CssAudit

namespace Gate

/-- The outcome of validating a batch. -/
structure Result where
  validated : OrderedMap Text Text := []
  warnings : List Warning := []
  rejections : List Rejection := []

namespace Result

def ok (result : Result) : Bool :=
  result.rejections.isEmpty

def securityRejected (result : Result) : Bool :=
  result.rejections.any fun rejection => rejection.kind = .security

def errors (result : Result) : List Text :=
  result.rejections.map (·.message)

def warningMessages (result : Result) : List Text :=
  result.warnings.map (·.message)

/-- The entries of a summary: what survived, or why something was refused. -/
def summary (result : Result) : List (String × Datum) :=
  if result.ok then
    [("validated", .object (result.validated.map fun entry =>
        (.text entry.1, .text entry.2))),
      ("warnings", .texts result.warningMessages)]
  else
    [("errors", .texts result.errors),
      ("warnings", .texts result.warningMessages),
      ("error_codes", .texts (result.rejections.map (·.code)))]

end Result

/-- What becomes of one declaration: its name and value in normal form, and the
verdict on them. -/
structure EntryOutcome where
  name : Text
  value : Text
  verdict : Verdict

/-- The declaration as it survives, if it is accepted. -/
def EntryOutcome.accepted? (outcome : EntryOutcome) : Option (Text × Text) :=
  match outcome.verdict.rejection with
  | none => some (outcome.name, outcome.value)
  | some _ => none

/-- What becomes of one declaration of a batch without dangers. -/
def judgeEntry (entry : Scalar × Datum) :
    Except Numeral.IntegerError EntryOutcome := do
  let written ← entry.1.toText
  let name := sanitizeName written
  if !listed allowedProperties name then
    .ok ⟨name, [], .reject (.propertyNotAllowed name written)⟩
  else
    match ← Batch.valueText? entry.2 with
    | none => .ok ⟨name, [], .reject (.unusableValue name entry.2.kindName)⟩
    | some text =>
        let value := sanitizeValue text
        .ok ⟨name, value, judge name (Value.parse name value)⟩

/-- The rejection of a batch that was to pass without warnings. -/
def strictRejection (strict : Bool) (warnings : List Warning) : List Rejection :=
  if strict && !warnings.isEmpty then [.strictWarnings warnings.length] else []

/-- The result of declarations that were judged one by one. -/
def Result.ofOutcomes (strict : Bool) (outcomes : List EntryOutcome) : Result :=
  let warnings := outcomes.flatMap (·.verdict.warnings)
  { validated := OrderedMap.ofList (outcomes.filterMap (·.accepted?))
    warnings
    rejections := outcomes.filterMap (·.verdict.rejection) ++
      strictRejection strict warnings }

def validate (batch : Batch) (strict : Bool) :
    Except Numeral.IntegerError Result := do
  let found ← dangers batch
  if found.isEmpty then
    let outcomes ← batch.mapM judgeEntry
    .ok (.ofOutcomes strict outcomes)
  else
    .ok { rejections := found }

/-- Why a batch that had to pass did not. -/
inductive Refusal where
  /-- The batch holds a danger. -/
  | security (result : Result)
  /-- Some declarations are malformed or not allowed. -/
  | schema (result : Result)
  /-- A number cannot be written as a text. -/
  | unreadable (cause : Numeral.IntegerError)

/-- The wording of a refused result. -/
def Result.refusalMessage (result : Result) : Text :=
  "CSS validation failed: ".toList ++
    if result.rejections.isEmpty then "no details".toList
    else Text.joinWith "; ".toList result.errors

/-- The result of validating a batch that has to pass. -/
def validateOrRefuse (batch : Batch) (strict : Bool) : Except Refusal Result :=
  match validate batch strict with
  | .error cause => .error (.unreadable cause)
  | .ok result =>
      if result.securityRejected then .error (.security result)
      else if !result.ok then .error (.schema result)
      else .ok result

end Gate

end CssAudit
