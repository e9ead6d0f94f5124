import CssAudit.Settings

/-!
# Arguments

The arguments of a command are options, with or without a value, and positional
arguments.  Options are read up to a double hyphen, among the positional
arguments or only before the first of them.
-/

namespace CssAudit

namespace CommandLine

/-- An option that a command knows. -/
structure Flag where
  name : String
  takesValue : Bool

/-- Why the arguments of a command are refused. -/
inductive UsageError where
  | noSuchOption (name : Text)
  | missingValue (name : Text)
  | unexpectedValue (name : Text)
  | missingArgument (name : String)
  | extraArguments (arguments : List Text)
  | missingCommand
  | noSuchCommand (name : Text)
  | notAChoice (option : String) (value : Text) (choices : List String)
  | notAnInteger (option : String) (value : Text)
  | noSuchFile (path : Text)
  | settings (cause : SettingsError)

/-- The wording of the beginning of an error about the value of a parameter. -/
def invalidValue (parameter : String) : Text :=
  "Invalid value for '".toList ++ parameter.toList ++ "': ".toList

def UsageError.message : UsageError → Text
  | .noSuchOption name => "No such option ".toList ++ name.quoted ++ ".".toList
  | .missingValue name =>
      "Option ".toList ++ name.quoted ++ " requires an argument.".toList
  | .unexpectedValue name =>
      "Option ".toList ++ name.quoted ++ " does not take a value.".toList
  | .missingArgument name => "Missing argument '".toList ++ name.toList ++ "'.".toList
  | .extraArguments arguments =>
      (if arguments.length = 1 then "Got unexpected extra argument (".toList
        else "Got unexpected extra arguments (".toList) ++
        Text.joinWith [' '] arguments ++ ")".toList
  | .missingCommand => "Missing command.".toList
  | .noSuchCommand name => "No such command ".toList ++ name.quoted ++ ".".toList
  | .notAChoice option value choices =>
      invalidValue option ++ value.quoted ++ " is not one of ".toList ++
        Text.joinWith ", ".toList (choices.map fun choice =>
          Text.quoted choice.toList) ++ ".".toList
  | .notAnInteger option value =>
      invalidValue option ++ value.quoted ++ " is not a valid integer.".toList
  | .noSuchFile path =>
      invalidValue "[SOURCE]" ++ "'".toList ++ path ++
        "': No such file or directory".toList
  | .settings cause => cause.message

/-- The options that were given, in order, and the positional arguments. -/
structure Arguments where
  options : List (Text × Option Text) := []
  positional : List Text := []
  deriving DecidableEq, Repr

/-- How an argument uses an option. -/
inductive OptionUse where
  /-- The option takes no value. -/
  | plain (name : Text)
  /-- The value follows an equals sign. -/
  | attached (name value : Text)
  /-- The value is the next argument. -/
  | awaiting (name : Text)

def isOption (argument : Text) : Bool :=
  argument.head? = some '-' && 1 < argument.length

/-- The name of the option that an unknown argument is taken for. -/
def unknownName (name argument : Text) : Text :=
  if argument.take 2 = ['-', '-'] then name else argument.take 2

/-- How an argument uses one of the options of a command. -/
def optionUse (flags : List Flag) (argument : Text) : Except UsageError OptionUse :=
  let (name, value) :=
    match Text.cutAt '=' argument with
    | some (name, value) => (name, some value)
    | none => (argument, none)
  match flags.find? fun flag => flag.name.toList == name with
  | none => .error (.noSuchOption (unknownName name argument))
  | some flag =>
      match flag.takesValue, value with
      | true, some value => .ok (.attached name value)
      | true, none => .ok (.awaiting name)
      | false, some _ => .error (.unexpectedValue name)
      | false, none => .ok (.plain name)

namespace Arguments

def addOption (name : Text) (value : Option Text) (arguments : Arguments) :
    Arguments :=
  { arguments with options := (name, value) :: arguments.options }

def addPositional (argument : Text) (arguments : Arguments) : Arguments :=
  { arguments with positional := argument :: arguments.positional }

/-- The arguments of a command that knows certain options.  If options may not
stand among the positional arguments, the first of those ends them. -/
def parse (flags : List Flag) (mixed : Bool) : List Text → Except UsageError Arguments
  | [] => .ok {}
  | argument :: rest =>
      if argument = ['-', '-'] then
        .ok { positional := rest }
      else if isOption argument then
        match optionUse flags argument with
        | .error cause => .error cause
        | .ok (.plain name) => (parse flags mixed rest).map (addOption name none)
        | .ok (.attached name value) =>
            (parse flags mixed rest).map (addOption name (some value))
        | .ok (.awaiting name) =>
            match rest with
            | [] => .error (.missingValue name)
            | value :: others =>
                (parse flags mixed others).map (addOption name (some value))
      else if mixed then
        (parse flags mixed rest).map (addPositional argument)
      else
        .ok { positional := argument :: rest }

def has (arguments : Arguments) (name : String) : Bool :=
  arguments.options.any fun option => option.1 == name.toList

/-- The last value of an option. -/
def value? (arguments : Arguments) (name : String) : Option Text :=
  (arguments.options.reverse.find? fun option => option.1 == name.toList).bind (·.2)

/-- Which of two options was given last, as true for the first. -/
def lastOf? (arguments : Arguments) (first second : String) : Option Bool :=
  (arguments.options.reverse.find? fun option =>
    option.1 == first.toList || option.1 == second.toList).map fun option =>
      option.1 == first.toList

/-- The choice, of several written in lower case, that the value of an option
is in any case. -/
def choice? (arguments : Arguments) (name : String) (choices : List String) :
    Except UsageError (Option Text) :=
  match arguments.value? name with
  | none => .ok none
  | some value =>
      if choices.any fun choice => choice.toList == value.map Char.toLower then
        .ok (some value)
      else
        .error (.notAChoice name value choices)

/-- The integer that the value of an option is. -/
def integer? (arguments : Arguments) (name : String) :
    Except UsageError (Option Int) :=
  match arguments.value? name with
  | none => .ok none
  | some value =>
      match Numeral.readInteger value with
      | .ok n => .ok (some n)
      | .error _ => .error (.notAnInteger name value)

/-- The refusal of positional arguments beyond a number of them. -/
def atMost (arguments : Arguments) (count : Nat) : Except UsageError Unit :=
  if arguments.positional.length ≤ count then .ok ()
  else .error (.extraArguments (arguments.positional.drop count))

end Arguments

end CommandLine

end CssAudit
