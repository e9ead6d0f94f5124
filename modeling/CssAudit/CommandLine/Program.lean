import CssAudit.CommandLine.Commands

/-!
# The program

The program reads its own options, finds the command, reads the settings and
runs the command or shows its help.  Without arguments it shows an overview of
its commands.
-/

namespace CssAudit

namespace CommandLine

/-- A command of the program. -/
structure Command where
  name : String
  /-- The positional arguments as its usage shows them. -/
  operands : List String := ["[SOURCE]"]
  /-- The paragraphs that describe it. -/
  description : List String
  options : List CommandOption := []
  /-- Whether the command reads a source. -/
  readsSource : Bool := true
  run : World → Settings → Arguments → Run Outcome

namespace Command

/-- The options that the command knows, the one for help as the last. -/
def flags (command : Command) : List Flag :=
  (command.options ++ [helpOption]).flatMap (·.flags)

def helpLines (command : Command) : List Text :=
  headLines (Text.joinWith [' ']
      (["stylegate", command.name, "[OPTIONS]"] ++ command.operands |>.map String.toList))
      command.description ++
    sectionLines "Options" ((command.options ++ [helpOption]).map (·.entry))

end Command

/-- The commands in alphabetical order. -/
def commands : List Command :=
  [{ name := "check"
     description := ["Check CSS from SOURCE against the WCAG rules.",
       "A declaration block is validated first; if anything is rejected the
        rejections are printed and nothing is checked. Exits with code 1 if
        validation fails or any error-severity issue is found."]
     options := contextOptions ++ [jsonOption "Print the report as JSON"]
     run := check },
    { name := "contrast"
      operands := ["FOREGROUND", "BACKGROUND"]
      description := ["Check the contrast ratio of FOREGROUND on BACKGROUND."]
      options := contrastOptions
      readsSource := false
      run := fun _ _ arguments => contrast arguments },
    { name := "inline"
      description := ["Render declarations from SOURCE as a safe style attribute value.",
        "Declarations that fail validation are dropped silently."]
      run := inline },
    { name := "report"
      description := ["Build a prioritized accessibility report for the stylesheet in SOURCE.",
        "Exits with code 1 if the target level is not met."]
      options := contextOptions ++
        [levelOption "Target WCAG level (default: AA)", jsonOption "Print the report as JSON"]
      run := report },
    { name := "serve"
      operands := []
      description := ["Start the stylegate web server."]
      options := serveOptions
      readsSource := false
      run := fun _ settings arguments => serve settings arguments },
    { name := "suggest"
      description :=
        ["List heuristic accessibility suggestions for the stylesheet in SOURCE."]
      options := [jsonOption "Print the suggestions as JSON"]
      run := suggest },
    { name := "validate"
      description := ["Validate CSS declarations from SOURCE (a file, or - for stdin).",
        "SOURCE holds either a JSON object or a ``prop: value;`` block. Exits
         with code 1 if any declaration is rejected."]
      options := validateOptions
      run := validate }]

def command? (name : Text) : Option Command :=
  commands.find? fun command => command.name.toList == name

/-- The log levels that the option may name, in lower case. -/
def logLevelChoices : List String := ["debug", "info", "warning", "error"]

def programOptions : List CommandOption :=
  [{ names := ["--version"], purpose := "Show the version and exit." },
    { names := ["--log-level"]
      value := choiceWord logLevelChoices
      purpose := "Logging level (default: STYLEGATE_LOG_LEVEL or WARNING)" },
    helpOption]

def programFlags : List Flag :=
  programOptions.flatMap (·.flags)

def overview : List Text :=
  let names := commands.map (·.name.toList)
  headLines "stylegate [OPTIONS] COMMAND [ARGS]...".toList
      ["stylegate - security and WCAG compliance gate for untrusted CSS."] ++
    sectionLines "Options" (programOptions.map (·.entry)) ++
    sectionLines "Commands" (commands.map fun command =>
      (command.name.toList,
        summarize (pageWidth - 6 - longest names) (command.description.headD "").toList))

/-- The lines that one of the options of the program asks for in place of a
command; of several the first one counts. -/
def information? (arguments : Arguments) : Option (List Text) :=
  arguments.options.findSome? fun option =>
    if option.1 = "--version".toList then
      some ["stylegate, version ".toList ++ version]
    else if option.1 = "--help".toList then
      some overview
    else
      none

def logLevels : List String :=
  ["CRITICAL", "FATAL", "ERROR", "WARN", "WARNING", "INFO", "DEBUG", "NOTSET"]

/-- The check that the log level of the option or else of the settings exists. -/
def checkLogLevel (settings : Settings) (option : Option Text) : Run Unit :=
  let level := Text.upper (option.getD settings.logLevel)
  if logLevels.any fun name => name.toList == level then .ok ()
  else .error (.breakdown (.unknownLogLevel level))

/-- The end of a run of a command before its outcome is formed. -/
def startCommand (world : World) (logLevel : Option Text) (command : Command)
    (arguments : List Text) : Run Outcome := do
  let settings ← Run.ofUsage
    ((Settings.ofEnvironment world.environment).mapError .settings)
  checkLogLevel settings logLevel
  let parsed ← Run.ofUsage (Arguments.parse command.flags true arguments)
  if parsed.has "--help" then .ok (.ofLines true command.helpLines)
  else command.run world settings parsed

/-- The end of a run before its outcome is formed. -/
def start (world : World) (arguments : List Text) : Run Outcome :=
  if arguments.isEmpty then
    .error (.overview overview)
  else do
    let parsed ← Run.ofUsage (Arguments.parse programFlags false arguments)
    match information? parsed with
    | some lines => .ok (.ofLines true lines)
    | none => do
        let logLevel ← Run.ofUsage (parsed.choice? "--log-level" logLevelChoices)
        match parsed.positional with
        | [] => .error (.usage .missingCommand)
        | name :: rest =>
            match command? name with
            | none => .error (.usage (.noSuchCommand name))
            | some command => startCommand world logLevel command rest

/-- The source that a run of the program reads, if it reads one. -/
def source? (arguments : List Text) : Option Source := do
  let parsed ← (Arguments.parse programFlags false arguments).toOption
  let command ← parsed.positional.head?.bind command?
  let own ← (Arguments.parse command.flags true parsed.positional.tail).toOption
  if (information? parsed).isSome || own.has "--help" || !command.readsSource then none
  else some own.source

def run (world : World) (arguments : List Text) : Except Breakdown Outcome :=
  outcomeOf (start world arguments)

end CommandLine

end CssAudit
