/-
The program as a function: what it writes and the code it ends with, given its arguments, the environment,
the files and the time. Settings come from the file named on the command line or in the environment, and
else from the first file in the usual places that can be read.
-/
import FieldRules.Command.Line
import FieldRules.Command.LogFilter
import FieldRules.Command.LogSettings
import FieldRules.Command.Validate
import FieldRules.Pattern.Meaning

namespace FieldRules

/-- What the program finds when it starts. -/
structure Surroundings where
  env : Variables
  files : Files
  /-- The time of the run, as it is written in reports. -/
  now : String
  /-- Whether the output is a terminal. -/
  terminal : Bool

/-- What the program leaves. -/
structure Outcome where
  output : String
  errors : String
  exitCode : Nat
deriving DecidableEq

/-- What a command writes, and whether it fails. -/
structure CommandRun where
  messages : List Message
  result : Except CommandError Unit

/-- A command that fails after some messages, or goes on. -/
def CommandRun.after {α : Type} (messages : List Message) (a : Except CommandError α)
    (next : α → CommandRun) : CommandRun :=
  match a with
  | .error e => ⟨messages, .error e⟩
  | .ok a => ⟨messages ++ (next a).messages, (next a).result⟩

/-! ## Settings -/

/-- A name in a directory. -/
def inDirectory (directory name : String) : String :=
  if directory.toList.getLast? = some '/' then directory ++ name else directory ++ "/" ++ name

namespace Settings

/-- The directories of the user: the one for settings, and the home directory. -/
def userDirectories (env : Variables) : Option String × Option String :=
  let home := (env "HOME").filter fun h => !h.isEmpty
  let config := (env "XDG_CONFIG_HOME").filter fun d => d.toList.head? = some '/'
  (config <|> home.map fun h => inDirectory h ".config", home)

/-- The usual places of a file with settings, the first one first. -/
def usualPlaces (env : Variables) : List String :=
  let (config, home) := userDirectories env
  [".fieldcheck.yaml", ".fieldcheck.json", "fieldcheck.yaml", "fieldcheck.json"] ++
    (config.toList.flatMap fun d =>
      ["config.yaml", "config.json"].map (inDirectory (inDirectory d "fieldcheck"))) ++
    home.toList.flatMap fun h => [".fieldcheck.yaml", ".fieldcheck.json"].map (inDirectory h)

/-- The settings of the first file that can be read, with a warning about each file before it that is there. -/
def search (files : Files) : List String → List String × Settings
  | [] => ([], standard)
  | path :: rest =>
    match files path with
    | .missing => search files rest
    | _ =>
      match Settings.read files path with
      | .ok s => ([], s)
      | .error e =>
        let (warnings, s) := search files rest
        (("Warning: Failed to load config from " ++ Text.quoted path ++ ": " ++ e.message) :: warnings, s)

/-- The settings of a run, with warnings. -/
def find (w : Surroundings) : Option String → Except CommandError (List String × Settings)
  | some path => (Settings.read w.files path).map fun s => ([], s)
  | none => .ok (search w.files (usualPlaces w.env))

end Settings

/-! ## The log -/

/-- Checks the settings of the log. A log that is switched off has no level to check. -/
def LogSettings.check (s : LogSettings) : Except CommandError Unit :=
  if s.console then
    (LogFilter.check s.level).mapError fun e =>
      .config ("invalid log level " ++ inQuotes s.level ++ ": " ++ e.message)
  else .ok ()

/-- What is said of the log when the program starts. The program runs on without a log that cannot be used. -/
def logWarnings (a : CommandLine) (file : LogSection) (env : Variables) : List String :=
  let failed (e : CommandError) := "Failed to initialize logging: " ++ e.message
  match LogSettings.resolve a.verbosity file env with
  | .error e => [failed e]
  | .ok s =>
    let s := if a.quiet then { s with level := "error" } else s
    (LogSettings.warning? env).toList ++
      match s.check with
      | .ok () => []
      | .error e => [failed e]

/-! ## Commands -/

namespace Command

/-- The arguments that a constraint takes, as a cell of a table. -/
def argumentCell (c : Constraint) : String :=
  toString c.arity ++ if c.takesFlag then " [+ trim flag]" else ""

/-- The constraints of a type as a table. -/
def constraintTable (t : FieldType) : Table :=
  ⟨["Constraint", "Arguments", "Description"], t.constraints.map fun c => [c.key, argumentCell c, c.summary]⟩

/-- What is said of a type. -/
def describe (t : FieldType) : List Message :=
  .section t.name ::
    if t.constraints.isEmpty then [.line "Only `type` and `required` apply."]
    else
      .table (constraintTable t) ::
        if t = .array then
          [.line ("ofType element types: " ++ Text.join ", " (ElementType.all.map ElementType.name))]
        else []

/-- The types that are asked for. -/
def typesNamed : Option String → Except CommandError (List FieldType)
  | none => .ok FieldType.all
  | some name =>
    match FieldType.ofName? name with
    | some t => .ok [t]
    | none =>
      .error (.invalidArguments ("unknown type " ++ inQuotes name ++ "; valid types are " ++ FieldType.validNames))

/-- Validates the inputs against the schema. -/
def runValidate [PatternEngine] (w : Surroundings) (settings : BatchSettings) (schema : String) (inputs : List String)
    (echo : Bool) : CommandRun :=
  .after [.info ("Compiling schema: " ++ schema)] (readSchema w.files schema) fun s =>
    let inputs := inputs.map fun path => ⟨path, readRecords w.files path⟩
    .after [] (s.validateInputs settings echo inputs) fun run =>
      let report : RunReport := ⟨schema, w.now, run.files⟩
      let warning := if run.stopped then [.warning "Stopped at the first invalid input (--fail-fast)"] else []
      .after (warning ++ [.runReport report]) report.verdict fun () => ⟨[.success "All records are valid"], .ok ()⟩

/-- Compiles the schema and tells what it consists of. -/
def runCheck [PatternEngine] (w : Surroundings) (schema : String) (detailed : Bool) : CommandRun :=
  .after [.info ("Checking schema: " ++ schema)] (readSchema w.files schema) fun s =>
    ⟨[.schemaSummary (.ofSchema schema s) detailed], .ok ()⟩

/-- Lists types with their constraints. -/
def runTypes (format : OutputFormat) (name : Option String) : CommandRun :=
  .after [] (typesNamed name) fun types =>
    ⟨if format = .human then types.flatMap describe else [.data (.list (types.map FieldType.toJson))], .ok ()⟩

end Command

/-- The completions for a shell: the words that may follow the name of the program. -/
def Shell.script (shell : Shell) : String :=
  let words := CommandName.all.map CommandName.name ++
    Parameter.general.filterMap fun p => p.long?.map fun n => "--" ++ n
  let list := Text.join " " words
  match shell with
  | bash => "complete -W \"" ++ list ++ "\" " ++ programName ++ "\n"
  | zsh => "#compdef " ++ programName ++ "\ncompadd -- " ++ list ++ "\n"
  | fish => "complete -c " ++ programName ++ " -f -a \"" ++ list ++ "\"\n"
  | powerShell =>
    "Register-ArgumentCompleter -Native -CommandName " ++ programName ++ " -ScriptBlock \x7b -split \"" ++ list ++
      "\" \x7d\n"
  | elvish =>
    "set edit:completion:arg-completer[" ++ programName ++ "] = \x7b|@words| put " ++ list ++ " \x7d\n"

/-- The text that a command leaves on the output, and its failure. -/
def Command.run [PatternEngine] (w : Surroundings) (settings : Settings) (console : Console) :
    Command → String × Except CommandError Unit
  | .validate schema inputs failFast maxErrors echo =>
    let r := runValidate w (settings.validation.override failFast maxErrors) schema inputs echo
    (console.writeAll r.messages, r.result)
  | .check schema detailed =>
    let r := runCheck w schema detailed
    (console.writeAll r.messages, r.result)
  | .types name =>
    let r := runTypes console.format name
    (console.writeAll r.messages, r.result)
  | .completions shell => (shell.script, .ok ())

/-! ## The program -/

namespace Outcome

/-- What follows a failure that points the user to the help. -/
def helpHint : String := "\nFor more information, try '--help'"

/-- The lines on a failure. -/
def failureLines (color : Bool) (e : CommandError) : List String :=
  e.shown color :: if e.showsHelp then [helpHint] else []

def ofFailure (output : String) (lines : List String) (color : Bool) (e : CommandError) : Outcome :=
  ⟨output, String.join ((lines ++ failureLines color e).map (· ++ "\n")), e.exitCode⟩

/-- A command line that gives no command: what the user asked for, or a mistake. -/
def ofUsage (e : UsageError) : Outcome :=
  if e.isAnswer then ⟨e.message ++ "\n", "", 0⟩ else ⟨"", "error: " ++ e.message ++ "\n", 2⟩

end Outcome

/-- Runs a command line that is read. -/
def CommandLine.run [PatternEngine] (w : Surroundings) (a : CommandLine) : Outcome :=
  let color := !a.noColor && w.terminal
  match Settings.find w a.config with
  | .error e => .ofFailure "" [] color e
  | .ok (warnings, settings) =>
    let color := color && settings.output.color
    let lines := warnings ++ logWarnings a settings.logging w.env
    let format := (a.output <|> settings.output.format).getD .human
    match a.command.run w settings ⟨format, color, a.quiet⟩ with
    | (output, .ok ()) => ⟨output, String.join (lines.map (· ++ "\n")), 0⟩
    | (output, .error e) => .ofFailure output lines color e

/-- Runs a command line. -/
def runProgram [PatternEngine] (w : Surroundings) (args : List String) : Outcome :=
  match CommandLine.parse (w.env CommandLine.configVariable) args with
  | .error e => .ofUsage e
  | .ok a => a.run w

/-- The variables of the environment that count. -/
def variableNames : List String :=
  [CommandLine.configVariable, LogSettings.levelVariable, LogSettings.formatVariable, LogSettings.consoleVariable,
    "HOME", "XDG_CONFIG_HOME"]

/-- The files that a run may look at. -/
def pathsOf (env : Variables) (args : List String) : List String :=
  match CommandLine.parse (env CommandLine.configVariable) args with
  | .error _ => []
  | .ok a =>
    (match a.config with
      | some path => [path]
      | none => Settings.usualPlaces env) ++
    match a.command with
    | .validate schema inputs .. => schema :: inputs
    | .check schema _ => [schema]
    | _ => []

end FieldRules
