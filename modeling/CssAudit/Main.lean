import CssAudit.CommandLine.Program
import Std.Time.Format

/-!
# Running the program

The program takes its arguments, its environment, its source and the time from
the system, and hands its outcome back to it.
-/

namespace CssAudit

namespace CommandLine

def settingNames : List String :=
  ["HOST", "PORT", "MAX_CSS_BYTES", "LOG_LEVEL", "DEFAULT_TARGET_LEVEL", "STRICT"]

def readEnvironment : IO Environment :=
  settingNames.filterMapM fun setting => do
    let name := Settings.variableName setting
    let value ← IO.getEnv (String.ofList name)
    pure (value.map fun text => (name, text.toList))

/-- What is left of a stream, after the text that was read from it before. -/
partial def readRest (stream : IO.FS.Stream) (before : String) : IO String := do
  let line ← stream.getLine
  if line.isEmpty then pure before else readRest stream (before ++ line)

/-- The text of a file, if it can be read. -/
def readFile? (path : Text) : IO (Option Text) := do
  try
    let content ← IO.FS.readFile (String.ofList path)
    pure (some content.toList)
  catch _ =>
    pure none

def readTime : IO Text := do
  let now ← Std.Time.Timestamp.now
  let date := Std.Time.DateTime.ofTimestamp now Std.Time.TimeZone.ZoneRules.UTC
  pure (date.format "uuuu-MM-dd'T'HH:mm:ss.SSSSSSxxx").toList

/-- What a run with certain arguments finds around it. -/
def readWorld (arguments : List Text) : IO World := do
  let environment ← readEnvironment
  let time ← readTime
  match source? arguments with
  | none => pure { environment, time }
  | some .standardInput => do
      let text ← readRest (← IO.getStdin) ""
      pure { environment, time, standardInput := text.toList }
  | some (.file path) => do
      let file ← readFile? path
      pure { environment, time, file }

end CommandLine

end CssAudit

def main (arguments : List String) : IO UInt32 := do
  let arguments := arguments.map String.toList
  let world ← CssAudit.CommandLine.readWorld arguments
  match CssAudit.CommandLine.run world arguments with
  | .ok outcome => do
      (← IO.getStdout).putStr (String.ofList outcome.output)
      (← IO.getStderr).putStr (String.ofList outcome.errorOutput)
      pure outcome.exitCode.toUInt32
  | .error cause => do
      (← IO.getStderr).putStr
        (String.ofList (CssAudit.CommandLine.errorLine cause.message))
      pure 1
