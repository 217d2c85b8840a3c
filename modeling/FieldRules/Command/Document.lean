/-
Files and what they hold. The name of a file tells its form: `.yaml` and `.yml` files are YAML, all others
JSON.
-/
import FieldRules.Command.Error
import FieldRules.Command.Settings
import FieldRules.Yaml.Reader

namespace FieldRules

/-- What is found under a path. -/
inductive FileState where
  | missing
  | unreadable (reason : String)
  | text (content : String)

/-- The files by path. -/
abbrev Files := String → FileState

/-! ## Names -/

/-- The last part of a path that is a name. -/
def fileName? (path : String) : Option (List Char) :=
  match ((Text.splitAt '/' path.toList).filter fun p => !p.isEmpty && p != ['.']).getLast? with
  | some name => if name = ['.', '.'] then none else some name
  | none => none

/-- What follows the last point of a name, unless the point begins the name. -/
def extension? (path : String) : Option (List Char) :=
  (fileName? path).bind fun name =>
    match (Text.splitAt '.' name).reverse with
    | last :: rest => if rest.isEmpty || rest = [[]] then none else some last
    | [] => none

def isYamlPath (path : String) : Bool :=
  match extension? path with
  | some e => e = ['y', 'a', 'm', 'l'] || e = ['y', 'm', 'l']
  | none => false

/-! ## Documents -/

/-- What is said of a YAML document that cannot be read. -/
def Yaml.refusal : String := "not a readable document"

/-- The value that a file holds. -/
def readDocument (files : Files) (path : String) : Except CommandError Json :=
  match files path with
  | .missing => .error (.fileNotFound path)
  | .unreadable reason => .error ((CommandError.io reason).withContext ("Failed to read " ++ path))
  | .text s =>
    if isYamlPath path then
      match Yaml.parse? s with
      | some v => .ok v
      | none => .error (.invalidFormat path "YAML" Yaml.refusal)
    else
      match Json.parse s with
      | .ok v => .ok v
      | .error e => .error (.invalidFormat path "JSON" e.message)

/-- The schema that a file holds. -/
def readSchema [PatternEngine] (files : Files) (path : String) : Except CommandError Schema := do
  let v ← readDocument files path
  (Schema.ofJson v).mapError (.schema path)

/-- A kind of value with its article. -/
def kindOf : Json → String
  | .null => "null"
  | .bool _ => "a boolean"
  | .number _ => "a number"
  | .text _ => "a string"
  | .list _ => "an array"
  | .object _ => "an object"

/-- The records of a document: the items of a list, or one object. -/
def recordsOf (path : String) : Json → Except CommandError (List Json)
  | .list records => .ok records
  | .object members => .ok [.object members]
  | v => .error (.invalidFormat path "an object or an array of records" ("found " ++ kindOf v))

/-- The records that a file holds. -/
def readRecords (files : Files) (path : String) : Except CommandError (List Json) := do
  recordsOf path (← readDocument files path)

/-! ## Settings -/

/-- The settings that a file holds. -/
def Settings.read (files : Files) (path : String) : Except CommandError Settings :=
  match files path with
  | .missing => .error (.fileNotFound path)
  | .unreadable reason => .error (.io reason)
  | .text s =>
    if isYamlPath path then
      match Yaml.parseAs? Settings.shape s with
      | some v => .ok (ofShaped v)
      | none => .error (.config (path ++ ": " ++ Yaml.refusal))
    else (ofText s).mapError fun e => .config (path ++ ": " ++ e.message)

end FieldRules
