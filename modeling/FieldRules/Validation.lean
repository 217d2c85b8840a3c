/-
Validating a record against a schema: every field gives at most one error, in the order of the
schema, and members of the record that are no fields are ignored.
-/
import FieldRules.Pipeline
import FieldRules.Template
import FieldRules.Json.Shape

namespace FieldRules

/-- A field that failed, with its message. -/
structure FieldError where
  field : String
  error : String
deriving DecidableEq

namespace FieldError

def shown (e : FieldError) : String :=
  e.field ++ ": " ++ e.error

def shape : Json.Shape :=
  .record "FieldError" true false [("field", .text), ("error", .text)]

def toJson (e : FieldError) : Json :=
  .object [("field", .text e.field), ("error", .text e.error)]

/-- The error in a value of the shape. -/
def ofShaped (v : Json) : FieldError :=
  let part (key : String) := ((v.get? key).bind Json.text?).getD ""
  ⟨part "field", part "error"⟩

end FieldError

/-- The errors of one record, as a value of its own. -/
structure ValidationErrors where
  errors : List FieldError
deriving DecidableEq

namespace ValidationErrors

/-- The errors numbered from one, a line each. -/
def numbered : Nat → List FieldError → String
  | _, [] => ""
  | n, e :: rest => "\n" ++ toString n ++ ". " ++ e.shown ++ numbered (n + 1) rest

def message (v : ValidationErrors) : String :=
  toString v.errors.length ++ " field(s) failed validation:" ++ numbered 1 v.errors

def add (v : ValidationErrors) (e : FieldError) : ValidationErrors :=
  ⟨v.errors ++ [e]⟩

/-- The message of the first error of a field. -/
def errorFor? (v : ValidationErrors) (field : String) : Option String :=
  (v.errors.find? fun e => e.field = field).map FieldError.error

def shape : Json.Shape :=
  .record "ValidationErrors" true false [("errors", .list FieldError.shape)]

def toJson (v : ValidationErrors) : Json :=
  .object [("errors", .list (v.errors.map FieldError.toJson))]

def ofShaped (v : Json) : ValidationErrors :=
  ⟨(((v.get? "errors").bind Json.list?).getD []).map FieldError.ofShaped⟩

end ValidationErrors

namespace Schema

/-- The error of one field on a record. A record that is no object has no fields. -/
def fieldError (record : Json) (name : String) (p : Pipeline) : Option FieldError :=
  let candidate := record.get? name
  (p.run candidate).map fun message => ⟨name, Template.render message name candidate⟩

/-- The errors of a record. -/
def validate (s : Schema) (record : Json) : List FieldError :=
  s.filterMap fun e => fieldError record e.1 e.2

def isValid (s : Schema) (record : Json) : Bool :=
  (s.validate record).isEmpty

/-- The errors of a record as one value, if there are any. -/
def check (s : Schema) (record : Json) : Except ValidationErrors Unit :=
  let errors := s.validate record
  if errors.isEmpty then .ok () else .error ⟨errors⟩

end Schema

end FieldRules
