/-
The closed catalogue of field types and of the constraints that each type accepts. A constraint is
known by its key within its type and takes a fixed number of arguments before its message; the two
length bounds take one more flag.
-/
import FieldRules.Json.Basic
import FieldRules.Text.Find

namespace FieldRules

/-- Names in double quotes, separated by bars. -/
def quotedNames (names : List String) : String :=
  Text.join " | " (names.map fun n => "\"" ++ n ++ "\"")

/-! ## Field types -/

/-- The declared type of a field. -/
inductive FieldType where
  | string
  | boolean
  | number
  | array
  | object
deriving DecidableEq

namespace FieldType

def all : List FieldType :=
  [string, boolean, number, array, object]

def name : FieldType → String
  | string => "string"
  | boolean => "boolean"
  | number => "number"
  | array => "array"
  | object => "object"

def ofName? (s : String) : Option FieldType :=
  all.find? fun t => t.name = s

/-- The names of all types, for messages. -/
def validNames : String :=
  quotedNames (all.map name)

theorem mem_all (t : FieldType) : t ∈ all := by cases t <;> decide

theorem ofName?_name (t : FieldType) : ofName? t.name = some t := by cases t <;> decide

theorem ofName?_eq_some_iff {s : String} {t : FieldType} : ofName? s = some t ↔ s = t.name := by
  constructor
  · intro h
    simpa [eq_comm] using List.find?_some h
  · rintro rfl
    exact ofName?_name t

end FieldType

/-! ## Constraints -/

/-- A constraint of one of the types. -/
inductive Constraint where
  | minLength
  | maxLength
  | pattern
  | enum
  | email
  | integer
  | lowerOrEqual
  | greaterOrEqual
  | equal
  | greaterThan
  | lowerThan
  | between
  | elementType
  | minSize
  | maxSize
  | size
deriving DecidableEq

namespace Constraint

def all : List Constraint :=
  [minLength, maxLength, pattern, enum, email, integer, lowerOrEqual, greaterOrEqual, equal, greaterThan,
    lowerThan, between, elementType, minSize, maxSize, size]

/-- The type whose fields accept the constraint. -/
def fieldType : Constraint → FieldType
  | minLength | maxLength | pattern | enum | email => .string
  | integer | lowerOrEqual | greaterOrEqual | equal | greaterThan | lowerThan | between => .number
  | elementType | minSize | maxSize | size => .array

/-- The key under which the constraint is declared. -/
def key : Constraint → String
  | minLength => "min"
  | maxLength => "max"
  | pattern => "match"
  | enum => "enum"
  | email => "email"
  | integer => "integer"
  | lowerOrEqual => "le"
  | greaterOrEqual => "ge"
  | equal => "eq"
  | greaterThan => "gt"
  | lowerThan => "lt"
  | between => "btw"
  | elementType => "ofType"
  | minSize => "ofMinSize"
  | maxSize => "ofMaxSize"
  | size => "ofSize"

/-- The number of arguments before the message. -/
def arity : Constraint → Nat
  | email | integer => 0
  | between => 2
  | _ => 1

/-- Whether one more flag may follow the arguments. -/
def takesFlag : Constraint → Bool
  | minLength | maxLength => true
  | _ => false

/-- What the constraint says of a value. -/
def summary : Constraint → String
  | minLength => "length is at least N characters (optional trim flag)"
  | maxLength => "length is at most N characters (optional trim flag)"
  | pattern => "matches a regular expression"
  | enum => "is one of a list of strings"
  | email => "is an e-mail address"
  | integer => "is an integer"
  | lowerOrEqual => "is lower than or equal to N"
  | greaterOrEqual => "is greater than or equal to N"
  | equal => "is equal to N"
  | greaterThan => "is greater than N"
  | lowerThan => "is lower than N"
  | between => "is between two bounds, inclusive"
  | elementType => "every element has the given type"
  | minSize => "has at least N elements"
  | maxSize => "has at most N elements"
  | size => "has exactly N elements"

/-- Whether `count` arguments may stand before the message. -/
def accepts (c : Constraint) (count : Nat) : Bool :=
  count == c.arity || (c.takesFlag && count == c.arity + 1)

/-- The lengths that a list of arguments with its message may have. -/
def expectedLength (c : Constraint) : String :=
  if c.takesFlag then toString (c.arity + 1) ++ " or " ++ toString (c.arity + 2) else toString (c.arity + 1)

end Constraint

namespace FieldType

/-- The constraints that fields of the type accept. -/
def constraints (t : FieldType) : List Constraint :=
  Constraint.all.filter fun c => c.fieldType = t

def constraint? (t : FieldType) (key : String) : Option Constraint :=
  t.constraints.find? fun c => c.key = key

/-- The keys of the constraints of the type, for messages. -/
def validConstraints (t : FieldType) : String :=
  match t.constraints with
  | [] => "none (type `" ++ t.name ++ "` only supports `type` and `required`)"
  | cs => quotedNames (cs.map Constraint.key)

theorem constraint?_fieldType {t : FieldType} {key : String} {c : Constraint}
    (h : t.constraint? key = some c) : c.fieldType = t ∧ c.key = key := by
  have hm := List.mem_of_find?_eq_some h
  have hk := List.find?_some h
  simp only [constraints, List.mem_filter, decide_eq_true_eq] at hm hk
  exact ⟨hm.2, hk⟩

end FieldType

/-! ## Element types -/

/-- The types that the elements of an array can be asked to have. -/
inductive ElementType where
  | string
  | number
  | boolean
  | object
deriving DecidableEq

namespace ElementType

def all : List ElementType :=
  [string, number, boolean, object]

def name : ElementType → String
  | string => "string"
  | number => "number"
  | boolean => "boolean"
  | object => "object"

def ofName? (s : String) : Option ElementType :=
  all.find? fun t => t.name = s

/-- Whether an element has the type; a text that spells a number is not a number here. -/
def admits : ElementType → Json → Bool
  | string, v => v.isText
  | number, v => v.isNumber
  | boolean, v => v.isBool
  | object, v => v.isObject

end ElementType

end FieldRules
