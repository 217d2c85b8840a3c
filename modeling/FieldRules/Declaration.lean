/-
The declarative form of a schema: fields by name, each with its rules by key, each rule a list of
arguments. Both levels keep the order of their first declaration and the content of the last one. A
schema is read from a JSON text or from a JSON value, and written back as JSON.
-/
import FieldRules.Json.Shape

namespace FieldRules

/-- The rules of a field: arguments by key. -/
abbrev FieldSpec := Entries (List Json)

/-- The fields of a schema: rules by name. -/
abbrev SchemaSpec := Entries FieldSpec

/-- The key of the declared type. -/
def typeKey : String := "type"

/-- The key that makes a field mandatory. -/
def requiredKey : String := "required"

/-- The key that no field may use. -/
def optionalKey : String := "optional"

namespace FieldSpec

def shape : Json.Shape :=
  .table "a map of constraint keys to argument lists" (.list .any)

/-- The rules in a value of the shape. -/
def ofShaped : Json → FieldSpec
  | .object members => Entries.ofList (members.map fun e => (e.1, e.2.list?.getD []))
  | _ => Entries.empty

def toJson (f : FieldSpec) : Json :=
  .object (f.toList.map fun e => (e.1, .list e.2))

def ofJson (v : Json) : Except Json.Misfit FieldSpec :=
  (shape.conform v).map ofShaped

def ofText (s : String) : Except Json.Fault FieldSpec :=
  (shape.parse s).map ofShaped

end FieldSpec

namespace SchemaSpec

def shape : Json.Shape :=
  .table "a map of field names to field configurations" FieldSpec.shape

/-- The fields in a value of the shape. -/
def ofShaped : Json → SchemaSpec
  | .object members => Entries.ofList (members.map fun e => (e.1, FieldSpec.ofShaped e.2))
  | _ => Entries.empty

def toJson (s : SchemaSpec) : Json :=
  .object (s.toList.map fun e => (e.1, FieldSpec.toJson e.2))

def ofJson (v : Json) : Except Json.Misfit SchemaSpec :=
  (shape.conform v).map ofShaped

def ofText (s : String) : Except Json.Fault SchemaSpec :=
  (shape.parse s).map ofShaped

end SchemaSpec

end FieldRules
