import CssAudit.Datum
import CssAudit.Text.Case

/-!
# Settings

The settings of the program are read from environment variables with a common
beginning.  Variables that are not set keep their defaults; the first one that
cannot be read is the error.
-/

namespace CssAudit

def version : Text := "0.1.0".toList

/-- The settings of the program. -/
structure Settings where
  host : Text := "127.0.0.1".toList
  port : Int := 5000
  maxCssBytes : Int := 100000
  logLevel : Text := "WARNING".toList
  targetLevel : Text := "AA".toList
  strict : Bool := false
  deriving DecidableEq, Repr

/-- The value of a variable that cannot be read, with the name of the variable. -/
inductive SettingsError where
  | notInteger (variableName raw : Text)
  | notTruth (variableName raw : Text)
  deriving DecidableEq, Repr

def SettingsError.message : SettingsError → Text
  | .notInteger variableName raw =>
      variableName ++ " must be an integer, got ".toList ++ raw.quoted
  | .notTruth variableName raw =>
      variableName ++ " must be a boolean, got ".toList ++ raw.quoted

/-- The variables of an environment. -/
abbrev Environment := List (Text × Text)

namespace Settings

def yesWords : List String := ["1", "true", "yes", "on"]

def noWords : List String := ["0", "false", "no", "off", ""]

def variableName (setting : String) : Text :=
  "STYLEGATE_".toList ++ setting.toList

def lookup (environment : Environment) (setting : String) : Option Text :=
  OrderedMap.get? environment (variableName setting)

def textSetting (environment : Environment) (setting : String) (default : Text) :
    Text :=
  (lookup environment setting).getD default

def integerSetting (environment : Environment) (setting : String) (default : Int) :
    Except SettingsError Int :=
  match lookup environment setting with
  | none => .ok default
  | some raw =>
      match Numeral.readInteger raw with
      | .ok value => .ok value
      | .error _ => .error (.notInteger (variableName setting) raw)

def truthSetting (environment : Environment) (setting : String) (default : Bool) :
    Except SettingsError Bool :=
  match lookup environment setting with
  | none => .ok default
  | some raw =>
      let word := (Text.trim raw).lower
      if yesWords.any (·.toList == word) then .ok true
      else if noWords.any (·.toList == word) then .ok false
      else .error (.notTruth (variableName setting) raw)

def ofEnvironment (environment : Environment) : Except SettingsError Settings := do
  let defaults : Settings := {}
  let port ← integerSetting environment "PORT" defaults.port
  let maxCssBytes ← integerSetting environment "MAX_CSS_BYTES" defaults.maxCssBytes
  let strict ← truthSetting environment "STRICT" defaults.strict
  .ok
    { host := textSetting environment "HOST" defaults.host
      port
      maxCssBytes
      logLevel := textSetting environment "LOG_LEVEL" defaults.logLevel
      targetLevel := textSetting environment "DEFAULT_TARGET_LEVEL" defaults.targetLevel
      strict }

end Settings

end CssAudit
