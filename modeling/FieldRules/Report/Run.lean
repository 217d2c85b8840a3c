/-
The report of a validation run: one batch report per input file, and on request the invalid records
themselves with their secrets masked.
-/
import FieldRules.Batch
import FieldRules.Redaction
import FieldRules.Report.Format

namespace FieldRules

/-- A record of the input, shown again. -/
structure Echo where
  index : Nat
  record : Json

/-- The outcome for one input file. -/
structure FileReport where
  path : String
  batch : BatchReport
  echoes : List Echo

/-- The outcome for all input files. -/
structure RunReport where
  schema : String
  generatedAt : String
  files : List FileReport

/-! ## As documents -/

def Echo.toJson (e : Echo) : Json :=
  .object [("index", .ofNat e.index), ("record", e.record)]

/-- A report with its echoes, when there are any. -/
def FileReport.toJson (f : FileReport) : Json :=
  let echoes := if f.echoes.isEmpty then [] else [("echoed", Json.list (f.echoes.map Echo.toJson))]
  .object (("path", .text f.path) :: f.batch.members ++ echoes)

/-! ## For people -/

mutual

/-- A value on one line. Lists of more than three items and objects of more than four members are only
counted. -/
def glance : Json → String
  | .text s => "\"" ++ s ++ "\""
  | .list items =>
    if items.length ≤ 3 then "[" ++ Text.join ", " (glanceItems items) ++ "]"
    else "[" ++ toString items.length ++ " items]"
  | .object members =>
    if members.length ≤ 4 then "\x7b" ++ Text.join ", " (glanceMembers members) ++ "\x7d"
    else "\x7b" ++ toString members.length ++ " fields\x7d"
  | v => v.compact

def glanceItems : List Json → List String
  | [] => []
  | v :: rest => glance v :: glanceItems rest

def glanceMembers : List (String × Json) → List String
  | [] => []
  | (k, v) :: rest => (k ++ ": " ++ glance v) :: glanceMembers rest

end

/-- The errors of a record, numbered. -/
def errorLines (r : RecordReport) : List String :=
  r.errors.zipIdx.map fun (e, i) => "    " ++ toString (i + 1) ++ ". " ++ e.shown

namespace FileReport

/-- The record at a position among those shown again. -/
def echo? (f : FileReport) (index : Nat) : Option Json :=
  (f.echoes.find? fun e => e.index = index).map Echo.record

def headline (f : FileReport) : String :=
  if f.batch.isValid then "✅ " ++ f.path ++ ": " ++ toString f.batch.checked ++ " record(s) valid"
  else "❌ " ++ f.path ++ ": " ++ toString f.batch.invalid.length ++ " of " ++ toString f.batch.checked ++
    " record(s) invalid"

def recordLines (f : FileReport) (r : RecordReport) : List String :=
  ("  Record " ++ toString r.index ++ ":") :: errorLines r ++
    ((f.echo? r.index).toList.map fun v => "    Input: " ++ glance v)

def lines (f : FileReport) : List String :=
  "" :: f.headline :: f.batch.invalid.flatMap f.recordLines ++
    if f.batch.truncated then
      ["  ⚠️ Stopped after " ++ toString f.batch.checked ++ " of " ++ toString f.batch.total ++ " record(s)"]
    else []

end FileReport

namespace RunReport

def isValid (r : RunReport) : Bool :=
  r.files.all fun f => f.batch.isValid

def checkedCount (r : RunReport) : Nat :=
  sumOf (fun f => f.batch.checked) r.files

def invalidCount (r : RunReport) : Nat :=
  sumOf (fun f => f.batch.invalid.length) r.files

def errorCount (r : RunReport) : Nat :=
  sumOf (fun f => f.batch.errorCount) r.files

def toJson (r : RunReport) : Json :=
  .object [("schema", .text r.schema), ("generated_at", .text r.generatedAt),
    ("files", .list (r.files.map FileReport.toJson))]

def summary (r : RunReport) : String :=
  "Summary: " ++ toString r.checkedCount ++ " record(s) checked in " ++ toString r.files.length ++
    " file(s), " ++ toString r.invalidCount ++ " invalid, " ++ toString r.errorCount ++ " field error(s)"

def lines (r : RunReport) : List String :=
  ["═══ Validation Report ═══", "", "Schema: " ++ r.schema, "Generated: " ++ r.generatedAt] ++
    r.files.flatMap FileReport.lines ++ ["", r.summary]

/-- The report for people. -/
def text (r : RunReport) : String :=
  String.join (r.lines.map (· ++ "\n"))

def render (r : RunReport) (f : OutputFormat) : String :=
  f.renderFor r.toJson r.text

end RunReport

/-- The invalid records of a batch with their secrets masked. -/
def echoInvalid (records : List Json) (report : BatchReport) : List Echo :=
  report.invalid.filterMap fun r => (records[r.index]?).map fun v => ⟨r.index, Redaction.redact v⟩

end FieldRules
