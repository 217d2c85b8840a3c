/-
What can go wrong when a command runs: each failure has a text, an exit code of its own, and only
wrong arguments point the user to the help.
-/
import FieldRules.Compile
import FieldRules.Report.Console

namespace FieldRules

/-- A failure of a command. -/
inductive CommandError where
  | io (message : String)
  | schema (path : String) (cause : SchemaError)
  | fileNotFound (path : String)
  | invalidFormat (path expected reason : String)
  | config (message : String)
  | invalidArguments (message : String)
  | validationFailed (invalid checked : Nat)
  | json (cause : Json.Fault)
  | other (message : String)

namespace CommandError

def message : CommandError → String
  | io m => "IO error: " ++ m
  | schema path cause => "Schema error in " ++ path ++ ": " ++ cause.message
  | fileNotFound path => "File not found: " ++ path
  | invalidFormat path expected reason =>
    "Invalid file format for " ++ path ++ ": expected " ++ expected ++ " (" ++ reason ++ ")"
  | config m => "Configuration error: " ++ m
  | invalidArguments m => "Invalid arguments: " ++ m
  | validationFailed invalid checked =>
    toString invalid ++ " of " ++ toString checked ++ " record(s) failed validation"
  | json cause => "JSON error: " ++ cause.message
  | other m => m

def exitCode : CommandError → Nat
  | validationFailed .. => 1
  | schema .. => 2
  | fileNotFound _ => 3
  | invalidFormat .. => 4
  | config _ => 5
  | invalidArguments _ => 6
  | io _ => 10
  | json _ => 12
  | other _ => 99

/-- Whether the user is pointed to the help. -/
def showsHelp : CommandError → Bool
  | invalidArguments _ => true
  | _ => false

/-- A failure with words on what was being done. -/
def withContext (context : String) (e : CommandError) : CommandError :=
  .other (context ++ ": " ++ e.message)

/-- The line that tells the user of a failure. -/
def shown (color : Bool) (e : CommandError) : String :=
  (if color then styled boldRed "Error:" else "Error:") ++ " " ++ e.message

end CommandError

end FieldRules
