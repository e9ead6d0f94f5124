import CssAudit.CommandLine.Arguments

/-!
# Outcomes

A run of the program ends with an exit code and text on two outputs, which
carries no control sequences.  A command that cannot go on stops with a usage
error or a failure, and a value that no command can handle breaks the run off.
-/

namespace CssAudit

namespace CommandLine

/-- How a run ends. -/
structure Outcome where
  exitCode : Nat := 0
  output : Text := []
  errorOutput : Text := []
  deriving DecidableEq, Repr

/-- What breaks a run off. -/
inductive Breakdown where
  /-- An integer cannot be converted. -/
  | integer (cause : Numeral.IntegerError)
  /-- The log level of the settings does not exist. -/
  | unknownLogLevel (name : Text)

def Breakdown.message : Breakdown → Text
  | .integer cause => cause.message
  | .unknownLogLevel name => "Unknown level: ".toList ++ name.quoted

/-- Why a command stops early. -/
inductive Stop where
  | usage (cause : UsageError)
  /-- Nothing was asked for, so the error output shows what can be. -/
  | overview (lines : List Text)
  | failure (message : Text)
  | breakdown (cause : Breakdown)

/-- The end of a command, or why it stops early. -/
abbrev Run (α : Type) := Except Stop α

/-- A run that usage errors stop. -/
def Run.ofUsage {α : Type} (result : Except UsageError α) : Run α :=
  result.mapError .usage

/-- A run that conversions break off. -/
def Run.ofInteger {α : Type} (result : Except Numeral.IntegerError α) : Run α :=
  result.mapError fun cause => .breakdown (.integer cause)

/-- Whether a character may stand among the parameters of a control sequence. -/
def isParameter (c : Char) : Bool :=
  c.isDigit || c = ';' || c = '?'

/-- The length of the control sequence at the start of a text, if there is one:
an escape and an opening bracket, parameters, and a letter. -/
def sequenceLength? : Text → Option Nat
  | '\x1B' :: '[' :: rest =>
      let parameters := rest.takeWhile isParameter
      (rest.drop parameters.length).head?.bind fun c =>
        if c.isAlpha then some (parameters.length + 3) else none
  | _ => none

/-- A text without control sequences, after its first `skipped` characters. -/
def plainFrom (skipped : Nat) : Text → Text
  | [] => []
  | c :: rest =>
      match skipped with
      | skipped + 1 => plainFrom skipped rest
      | 0 =>
          match sequenceLength? (c :: rest) with
          | some length => plainFrom (length - 1) rest
          | none => c :: plainFrom 0 rest

/-- A line of output, with its end and without control sequences. -/
def outputLine (line : Text) : Text :=
  plainFrom 0 line ++ ['\n']

def unlines (lines : List Text) : Text :=
  lines.flatMap outputLine

def exitCodeOf (good : Bool) : Nat :=
  if good then 0 else 1

/-- The outcome of a command that prints lines after a verdict. -/
def Outcome.ofLines (good : Bool) (lines : List Text) : Outcome :=
  { exitCode := exitCodeOf good, output := unlines lines }

def errorLine (message : Text) : Text :=
  outputLine ("Error: ".toList ++ message)

def outcomeOf : Run Outcome → Except Breakdown Outcome
  | .ok outcome => .ok outcome
  | .error (.usage cause) => .ok { exitCode := 2, errorOutput := errorLine cause.message }
  | .error (.overview lines) => .ok { exitCode := 2, errorOutput := unlines lines }
  | .error (.failure message) => .ok { exitCode := 1, errorOutput := errorLine message }
  | .error (.breakdown cause) => .error cause

end CommandLine

end CssAudit
