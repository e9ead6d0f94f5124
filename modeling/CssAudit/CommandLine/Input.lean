import CssAudit.CommandLine.Outcome
import CssAudit.Datum
import CssAudit.Json.Reader
import CssAudit.Stylesheet.Declarations

/-!
# Input

A command reads its source from the standard input or from a file.  Line ends
are unified, and a source beyond the size limit stops the command.  A source of
declarations is a JSON object or a declaration block.
-/

namespace CssAudit

namespace CommandLine

/-- Where a command reads its source. -/
inductive Source where
  | standardInput
  | file (path : Text)
  deriving DecidableEq, Repr

/-- The source that arguments name: a file, or the standard input if they name
none or a hyphen. -/
def Arguments.source (arguments : Arguments) : Source :=
  match arguments.positional.head? with
  | none => .standardInput
  | some path => if path = ['-'] then .standardInput else .file path

/-- What a run finds around it: the environment, the standard input, the text of
the file that is its source, and the time. -/
structure World where
  environment : Environment := []
  standardInput : Text := []
  file : Option Text := none
  time : Text := []

/-- A text whose line ends are all line feeds. -/
def unifyLineEnds : Text → Text
  | [] => []
  | '\r' :: '\n' :: rest => '\n' :: unifyLineEnds rest
  | c :: rest => (if c = '\r' then '\n' else c) :: unifyLineEnds rest

def World.read (world : World) : Source → Except UsageError Text
  | .standardInput => .ok (unifyLineEnds world.standardInput)
  | .file path =>
      match world.file with
      | some content => .ok (unifyLineEnds content)
      | none => .error (.noSuchFile path)

/-- The source within the size limit. -/
def withinLimit (settings : Settings) (source : Text) : Run Text :=
  if settings.maxCssBytes < Text.byteCount source then
    .error (.failure ("CSS input exceeds ".toList ++
      Numeral.integerText settings.maxCssBytes ++ " bytes".toList))
  else
    .ok source

/-- The text of the one source that arguments may name. -/
def readSource (world : World) (settings : Settings) (arguments : Arguments) :
    Run Text := do
  let source ← Run.ofUsage (world.read arguments.source)
  Run.ofUsage (arguments.atMost 1)
  withinLimit settings source

/-- The declarations of a source: those of a JSON object, if it is one, or else
those of a block. -/
def loadDeclarations (source : Text) : Run Batch :=
  let text := Text.trim source
  let block := Batch.ofTexts (Stylesheet.parseDeclarations text)
  if text.head? = some '{' then
    match Json.read text with
    | .ok (.object entries) => .ok entries
    | .error (.integer cause) => .error (.breakdown (.integer cause))
    | _ => .ok block
  else
    .ok block

end CommandLine

end CssAudit
