/-
What a compiled schema consists of, and what a field type has to offer.
-/
import FieldRules.Pipeline
import FieldRules.Report.Format

namespace FieldRules

/-- A compiled field: its type, and the keys of its steps with the gate first. -/
structure FieldSummary where
  name : String
  type : FieldType
  required : Bool
  steps : List String

/-- A compiled schema. -/
structure SchemaSummary where
  path : String
  fields : List FieldSummary

namespace FieldSummary

def ofPipeline (name : String) (p : Pipeline) : FieldSummary :=
  ⟨name, p.type, p.isRequired, p.stepNames⟩

def toJson (f : FieldSummary) : Json :=
  .object [("name", .text f.name), ("type", .text f.type.name), ("required", .bool f.required),
    ("steps", .list (f.steps.map .text))]

def line (f : FieldSummary) : String :=
  "  • " ++ f.name ++ " (" ++ f.type.name ++ "): " ++ Text.join " → " f.steps

end FieldSummary

namespace SchemaSummary

def ofSchema (path : String) (s : Schema) : SchemaSummary :=
  ⟨path, s.map fun e => .ofPipeline e.1 e.2⟩

def toJson (s : SchemaSummary) : Json :=
  .object [("path", .text s.path), ("fields", .list (s.fields.map FieldSummary.toJson))]

/-- The summary for people, with a line a field when it is detailed. -/
def text (s : SchemaSummary) (detailed : Bool) : String :=
  let headline := "✅ " ++ s.path ++ ": " ++ toString s.fields.length ++ " field(s) compiled"
  String.join ((headline :: if detailed then s.fields.map FieldSummary.line else []).map (· ++ "\n"))

def render (s : SchemaSummary) (detailed : Bool) (f : OutputFormat) : String :=
  f.renderFor s.toJson (s.text detailed)

end SchemaSummary

/-- A constraint as an entry of the catalogue. -/
def Constraint.toJson (c : Constraint) : Json :=
  .object [("name", .text c.key), ("arg_count", .ofNat c.arity), ("allows_trailing_flag", .bool c.takesFlag),
    ("summary", .text c.summary)]

/-- A field type with its constraints. -/
def FieldType.toJson (t : FieldType) : Json :=
  .object [("name", .text t.name), ("constraints", .list (t.constraints.map Constraint.toJson))]

end FieldRules
