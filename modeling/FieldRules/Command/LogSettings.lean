/-
How the log is written. The settings follow from the verbosity, then from the configuration file,
then from the environment; each of the three overrides what comes before it.
-/
import FieldRules.Command.Error
import FieldRules.Command.Settings
import FieldRules.Text.Casing

namespace FieldRules

/-- The forms of the log. -/
inductive LogFormat where
  | compact
  | full
  | json
deriving DecidableEq

namespace LogFormat

def all : List LogFormat :=
  [compact, full, json]

def name : LogFormat → String
  | compact => "compact"
  | full => "full"
  | json => "json"

/-- The form of a name in any case. -/
def ofName (s : String) : Except CommandError LogFormat :=
  let lower := Text.lowercase s
  match all.find? fun f => f.name = lower with
  | some f => .ok f
  | none => .error (.config ("invalid log format " ++ inQuotes lower ++ "; expected compact, full or json"))

end LogFormat

/-- The variables of the environment. -/
abbrev Variables := String → Option String

/-- The settings of the log. -/
structure LogSettings where
  level : String
  format : LogFormat
  console : Bool
  threadIds : Bool
  sourceLocation : Bool
  spanEvents : Bool
deriving DecidableEq

namespace LogSettings

def standard : LogSettings := ⟨"warn", .compact, true, false, false, false⟩

def ofVerbosity : Nat → LogSettings
  | 0 => standard
  | 1 => { standard with level := "info" }
  | 2 => { standard with level := "debug", sourceLocation := true }
  | _ => ⟨"trace", .full, true, true, true, true⟩

/-- The level of the file counts only when the user asks for no verbosity. -/
def withSection (s : LogSettings) (file : LogSection) (verbosity : Nat) : Except CommandError LogSettings := do
  let format ← match file.format with
    | some name => LogFormat.ofName name
    | none => .ok s.format
  .ok { s with
    level := if verbosity = 0 then file.level.getD s.level else s.level
    format := format
    threadIds := s.threadIds || file.threadIds }

def levelVariable : String := "RUST_LOG"
def formatVariable : String := "FIELDCHECK_LOG_FORMAT"
def consoleVariable : String := "FIELDCHECK_LOG_CONSOLE"

/-- The form named in the environment, if it names one. -/
def formatIn? (env : Variables) : Option LogFormat :=
  (env formatVariable).bind fun name => (LogFormat.ofName name).toOption

/-- The words that switch the log on. -/
def isOn (s : String) : Bool :=
  Text.lowercase s = "true" || s = "1"

def withVariables (s : LogSettings) (env : Variables) : LogSettings :=
  { s with
    level := (env levelVariable).getD s.level
    format := (formatIn? env).getD s.format
    console := ((env consoleVariable).map isOn).getD s.console }

/-- The warning about a form that the environment names and that does not exist. -/
def warning? (env : Variables) : Option String :=
  match env formatVariable, formatIn? env with
  | some name, none => some ("Warning: invalid " ++ formatVariable ++ " " ++ inQuotes name ++ ", using default")
  | _, _ => none

/-- The settings from all three sources. -/
def resolve (verbosity : Nat) (file : LogSection) (env : Variables) : Except CommandError LogSettings := do
  .ok ((← (ofVerbosity verbosity).withSection file verbosity).withVariables env)

end LogSettings

end FieldRules
