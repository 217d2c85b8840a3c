/-
Reading a command line. The program and its command take parameters of their own, and the general ones at
both levels: what is given behind the command counts more than what is given before it, and both count
more than the environment. A value is looked at when the next parameter begins or the level ends, so the
first mistake in that order is the answer.
-/
import FieldRules.Command.Usage

namespace FieldRules

/-- A command with its parameters. -/
inductive Command where
  | validate (schema : String) (inputs : List String) (failFast : Bool) (maxErrors : Option Nat)
      (showInput : Bool)
  | check (schema : String) (detailed : Bool)
  | types (name : Option String)
  | completions (shell : Shell)
deriving DecidableEq

/-- A command line. -/
structure CommandLine where
  verbose : Nat
  quiet : Bool
  config : Option String
  output : Option OutputFormat
  noColor : Bool
  command : Command
deriving DecidableEq

/-- The verbosity asked for; none when the program is to be quiet. -/
def CommandLine.verbosity (a : CommandLine) : Nat :=
  if a.quiet then 0 else a.verbose

/-! ## Parameters given -/

/-- What is given at one level. -/
structure Given where
  /-- The parameters in the order in which each was given last. -/
  order : List Parameter
  verbose : Nat
  config : Option String
  output : Option OutputFormat
  maxErrors : Option Nat
  schema : Option String
  inputs : List String
  fieldType : Option String
  shell : Option Shell

namespace Given

def nothing : Given := ⟨[], 0, none, none, none, none, [], none, none⟩

def has (g : Given) (p : Parameter) : Bool :=
  g.order.contains p

/-- A parameter that may be given once. -/
def once (g : Given) (p : Parameter) : Except UsageError Given :=
  if g.has p then .error (.repeated p) else .ok { g with order := g.order ++ [p] }

/-- A parameter that may be given many times. -/
def again (g : Given) (p : Parameter) : Given :=
  { g with order := g.order.erase p ++ [p] }

/-- A value that is a path. -/
def path (p : Parameter) (s : String) : Except UsageError String :=
  if s.isEmpty then .error (.missingValue p) else .ok s

/-- One of some values known by name. -/
def choice {α : Type} (ofName? : String → Option α) (p : Parameter) (s : String) : Except UsageError α :=
  match ofName? s with
  | some a => .ok a
  | none => .error (if s.isEmpty then .missingValue p else .unknownValue s p)

/-- The greatest verbosity that is counted. -/
def greatestVerbosity : Nat := 255

/-- Takes a parameter with its values; one that takes a value has to have one. -/
def take (command : Option CommandName) (g : Given) (p : Parameter) (values : List String) :
    Except UsageError Given :=
  match p, values with
  | .help, _ => .error .helpAsked
  | .version, _ => .error (.versionAsked command)
  | .verbose, _ => .ok { g.again .verbose with verbose := min greatestVerbosity (g.verbose + 1) }
  | .quiet, _ | .noColor, _ | .failFast, _ | .showInput, _ | .detailed, _ => g.once p
  | _, [] => .error (.missingValue p)
  | .config, v :: _ => do .ok { ← g.once p with config := ← path p v }
  | .output, v :: _ => do .ok { ← g.once p with output := ← choice OutputFormat.ofName? p v }
  | .maxErrors, v :: _ => do
    let g ← g.once p
    match countOf v with
    | .ok n => .ok { g with maxErrors := some n }
    | .error cause => .error (.invalidCount v p cause)
  | .schema, v :: _ => do .ok { ← g.once p with schema := ← path p v }
  | .inputs, vs => do .ok { g.again p with inputs := g.inputs ++ (← vs.mapM (path p)) }
  | .fieldType, v :: _ => do .ok { ← g.once p with fieldType := v }
  | .shell, v :: _ => do .ok { ← g.once p with shell := ← choice Shell.ofName? p v }

end Given

/-! ## Reading a level -/

/-- What is given so far, and the parameter whose values are not looked at yet. -/
structure Reading where
  given : Given
  pending : Option (Parameter × List String)

namespace Reading

variable (command : Option CommandName)

def start : Reading := ⟨.nothing, none⟩

/-- Takes the parameter that is pending. -/
def settle (r : Reading) : Except UsageError Reading :=
  match r.pending with
  | some (p, values) => do .ok ⟨← r.given.take command p values, none⟩
  | none => .ok r

/-- Takes a parameter at once. -/
def take (p : Parameter) (values : List String) (r : Reading) : Except UsageError Reading := do
  let r ← r.settle command
  .ok ⟨← r.given.take command p values, none⟩

/-- Leaves a parameter pending; its value is still to come. -/
def await (p : Parameter) (r : Reading) : Except UsageError Reading := do
  .ok { ← r.settle command with pending := some (p, []) }

/-- A value of the parameter that is pending. -/
def add (value : String) (r : Reading) : Reading :=
  { r with pending := r.pending.map fun (p, values) => (p, values ++ [value]) }

/-- A value by place. Several in a row are pending together. -/
def place (p : Parameter) (value : String) (r : Reading) : Except UsageError Reading := do
  if r.pending.map Prod.fst = some p ∧ p = .inputs then .ok (r.add value)
  else .ok { ← r.settle command with pending := some (p, [value]) }

/-- The parameters that are given by name at a level. -/
def namedAt : Option CommandName → List Parameter
  | some c => c.named
  | none => Parameter.general

def long? (name : String) : Option Parameter :=
  (namedAt command).find? fun p => p.long? = some name

def short? (c : Char) : Option Parameter :=
  (namedAt command).find? fun p => p.short? = some c

/-- An argument behind two dashes. The flag tells whether a value has to follow. -/
def long (cs : List Char) (r : Reading) : Except UsageError (Reading × Bool) :=
  let name := String.ofList (cs.takeWhile (· ≠ '='))
  let attached : Option String := match cs.dropWhile (· ≠ '=') with
    | [] => none
    | _ :: value => some (String.ofList value)
  match long? command name, attached with
  | none, _ => .error (.unknownArgument ("--" ++ name))
  | some p, none =>
    if p.takesValue then do .ok (← r.await command p, true) else do .ok (← r.take command p [], false)
  | some p, some value =>
    if p.takesValue then do .ok (← r.take command p [value], false) else .error (.needlessValue value p)

/-- Letters behind one dash. What follows a letter that takes a value is its value. -/
def shorts : List Char → Reading → Except UsageError (Reading × Bool)
  | [], r => .ok (r, false)
  | c :: cs, r =>
    match short? command c with
    | none => .error (.unknownArgument ("-" ++ String.singleton c))
    | some p =>
      if !p.takesValue then do shorts cs (← r.take command p [])
      else if cs.isEmpty then do .ok (← r.await command p, true)
      else do .ok (← r.take command p [String.ofList (if cs.head? = some '=' then cs.drop 1 else cs)], false)

/-- The parameter at a place, counted from zero. -/
def placeAt? (n : Nat) : Option Parameter :=
  command.bind fun c => if c = .validate ∧ 0 < n then some .inputs else c.placed[n]?

/-- Whether a text names a command, the one that shows the help included. -/
def isCommandWord (s : String) : Bool :=
  (CommandName.ofName? s).isSome || s = "help"

/-- An argument that no place is left for. -/
def surplus (escaped : Bool) (arg : String) : UsageError :=
  if command.isNone && !(escaped && isCommandWord arg) then .unknownCommand arg else .unknownArgument arg

/-- What follows the word `help`: the name of a command, and nothing more. -/
def helpOn : List String → UsageError
  | [] => .helpAsked
  | name :: rest =>
    if isCommandWord name then
      match rest with
      | [] => .helpAsked
      | other :: _ => .unknownCommand other
    else .unknownCommand name

/-- The arguments of a level. Behind two dashes alone all are values by place. Reading stops at the name of
a command, which is given with the arguments behind it. -/
def arguments : List String → Bool → Bool → Nat → Reading →
    Except UsageError (Reading × Option (CommandName × List String))
  | [], _, _, _, r => .ok (r, none)
  | arg :: rest, escaped, awaiting, n, r =>
    let cs := arg.toList
    let byPlace : Except UsageError (Reading × Option (CommandName × List String)) :=
      match placeAt? command n with
      | some p => do arguments rest escaped false (n + 1) (← r.place command p arg)
      | none => .error (surplus command escaped arg)
    if escaped then byPlace
    else if command.isNone && !awaiting && arg = "help" then .error (helpOn rest)
    else
      let name? := if command.isNone && !awaiting then CommandName.ofName? arg else none
      match name? with
      | some c => .ok (r, some (c, rest))
      | none =>
        if cs = ['-', '-'] then arguments rest true false n r
        else if cs.take 2 = ['-', '-'] then do
          let (r, awaiting) ← r.long command (cs.drop 2)
          arguments rest false awaiting n r
        else if cs.head? = some '-' ∧ 1 < cs.length then do
          let (r, awaiting) ← r.shorts command (cs.drop 1)
          arguments rest false awaiting n r
        else if awaiting then arguments rest false false n (r.add arg)
        else byPlace

end Reading

/-! ## Checking a level -/

namespace Given

/-- The first of two parameters that exclude each other. -/
def conflict? (g : Given) : Option UsageError :=
  if g.has .verbose && g.has .quiet then
    (g.order.find? fun p => p = .verbose ∨ p = .quiet).map fun p =>
      .conflict p (if p = .verbose then .quiet else .verbose)
  else none

/-- Checks what is given at a level, with the file that the environment names. -/
def check (g : Given) (required : List Parameter) (environment : Option String) : Except UsageError Unit := do
  if environment = some "" ∧ !g.has .config then throw (.missingValue .config)
  match g.conflict? with
  | some e => throw e
  | none =>
    let missing := required.filter fun p => !g.has p
    if !missing.isEmpty then throw (.missingArguments missing)

/-- The command that a level gives; its required parameters are there. -/
def command (g : Given) : CommandName → Command
  | .validate => .validate (g.schema.getD "") g.inputs (g.has .failFast) g.maxErrors (g.has .showInput)
  | .check => .check (g.schema.getD "") (g.has .detailed)
  | .types => .types g.fieldType
  | .completions => .completions (g.shell.getD .bash)

end Given

namespace CommandLine

/-- The variable that names a configuration file. -/
def configVariable : String := "FIELDCHECK_CONFIG"

/-- The command line with the configuration file that the environment names. -/
def parse (environment : Option String) (args : List String) : Except UsageError CommandLine := do
  let (r, command?) ← Reading.arguments none args false false 0 .start
  match command? with
  | none =>
    let outer := (← r.settle none).given
    if environment = some "" ∧ !outer.has .config then throw (.missingValue .config)
    throw (if outer.order.isEmpty ∧ environment.isNone then .nothingGiven else .missingCommand)
  | some (name, rest) =>
    let (s, _) ← Reading.arguments (some name) rest false false 0 .start
    let inner := (← s.settle (some name)).given
    inner.check name.required environment
    let outer := (← r.settle none).given
    outer.check [] environment
    .ok ⟨if inner.has .verbose then inner.verbose else outer.verbose, inner.has .quiet || outer.has .quiet,
      (inner.config <|> outer.config) <|> environment, inner.output <|> outer.output,
      inner.has .noColor || outer.has .noColor, inner.command name⟩

end CommandLine

end FieldRules
