/-
From declarations to pipelines. A field's type comes first, then whether it is required, then the
other rules in the order of their declaration; the first mistake is the answer, and the first field
with one stops the schema.
-/
import FieldRules.Declaration
import FieldRules.Pipeline

namespace FieldRules

/-- A mistake in the declaration of a field. -/
inductive ConfigCause where
  | typeNotSpecified
  | unknownType (name : String)
  | missingTypeMessage
  | missingRequiredMessage
  | reservedKey (key : String)
  | unknownConstraint (key : String) (type : FieldType)
  | argumentCount (key : String) (type : FieldType) (expected : String) (found : Nat)
  | messageNotText (key : String)
  | invalidArgument (key : String) (type : FieldType) (expected : String)
  | invalidPattern (pattern reason : String)
  | invalidRange (key : String) (lower upper : Binary64)

/-- A mistake with the field it is found in. -/
structure ConfigError where
  field : String
  cause : ConfigCause

def inQuotes (s : String) : String :=
  "`" ++ s ++ "`"

def ConfigError.message (e : ConfigError) : String :=
  let ofField := "(field " ++ inQuotes e.field ++ ")"
  match e.cause with
  | .typeNotSpecified =>
    "type not specified for field " ++ inQuotes e.field ++ "; must be one of the registered types: " ++
      FieldType.validNames
  | .unknownType name =>
    inQuotes name ++ " is not a registered type " ++ ofField ++ "; valid types are: " ++ FieldType.validNames
  | .missingTypeMessage => "a message is required for the type check " ++ ofField
  | .missingRequiredMessage => "a message is required for the required check " ++ ofField
  | .reservedKey key =>
    inQuotes key ++ " is a reserved key and cannot be configured " ++ ofField ++
      "; omit `required` to make a field optional"
  | .unknownConstraint key type =>
    inQuotes key ++ " is not a constraint of type " ++ inQuotes type.name ++ " " ++ ofField ++
      "; valid constraints are: " ++ type.validConstraints
  | .argumentCount key type expected found =>
    "invalid argument count for constraint " ++ inQuotes key ++ " of type " ++ inQuotes type.name ++ " " ++
      ofField ++ "; expected " ++ expected ++ " argument(s), found " ++ toString found
  | .messageNotText key =>
    "message must be a string (constraint " ++ inQuotes key ++ " of field " ++ inQuotes e.field ++ ")"
  | .invalidArgument key type expected =>
    "invalid argument for constraint " ++ inQuotes key ++ " of type " ++ inQuotes type.name ++ " " ++ ofField ++
      "; expected " ++ expected
  | .invalidPattern pattern reason =>
    "invalid pattern " ++ inQuotes pattern ++ " for constraint `match` " ++ ofField ++ ": " ++ reason
  | .invalidRange key lower upper =>
    "for range constraint " ++ inQuotes key ++ " " ++ ofField ++ ", the lower bound " ++
      String.ofList (Binary64.plain.write lower) ++ " must be lower than the upper bound " ++
      String.ofList (Binary64.plain.write upper)

/-! ## Arguments -/

/-- A number of 64 bits without a sign. A number with a point counts when it is whole, and the
first one too great counts as the greatest. -/
def sizeOf? : Json → Option Nat
  | .number (.natural n) => some n
  | .number (.real x) =>
    if (x.isZero || !x.neg) && x.isIntegral && x.wholePart ≤ twoPow 64 then
      some (min x.wholePart (twoPow 64 - 1))
    else none
  | _ => none

/-- The rule whose arguments are read: its key, and the type of the field that it stands in. -/
structure Rule where
  key : String
  type : FieldType

namespace Rule

variable {α : Type} [PatternEngine]

def invalid (r : Rule) (expected : String) : Except ConfigCause α :=
  .error (.invalidArgument r.key r.type expected)

def size (r : Rule) (v : Json) : Except ConfigCause Nat :=
  match sizeOf? v with
  | some n => .ok n
  | none => r.invalid "a non-negative integer"

def number (r : Rule) : Json → Except ConfigCause Binary64
  | .number n => .ok n.toBinary64
  | _ => r.invalid "a finite number"

/-- The flag behind the arguments of a length bound. -/
def trimFlag (r : Rule) : List Json → Except ConfigCause Bool
  | [] => .ok false
  | .bool b :: _ => .ok b
  | _ => r.invalid "a boolean trim flag after the length"

def pattern (r : Rule) : Json → Except ConfigCause TextCheck
  | .text s =>
    match PatternEngine.compile s with
    | .ok search => .ok (.pattern s search)
    | .error reason => .error (.invalidPattern s reason)
  | _ => r.invalid "a regular expression pattern string"

/-- A list of texts. -/
def names (r : Rule) : Json → Except ConfigCause (List String)
  | .list items =>
    match items.mapM Json.text? with
    | some names => .ok names
    | none => r.invalid "an array of strings"
  | _ => r.invalid "an array of strings"

def range (r : Rule) (low high : Json) : Except ConfigCause NumberCheck := do
  let lower ← r.number low
  let upper ← r.number high
  if h : lower < upper then .ok (.between lower upper h)
  else .error (.invalidRange r.key lower upper)

def elementType (r : Rule) (v : Json) : Except ConfigCause ElementType :=
  match v.text?.bind ElementType.ofName? with
  | some t => .ok t
  | none => r.invalid "one of \"string\" | \"number\" | \"boolean\" | \"object\""

/-- The check of a constraint on its arguments, whose number the constraint accepts. -/
def check (r : Rule) : Constraint → List Json → Except ConfigCause Check
  | .minLength, v :: flag => do .ok (.text (.minLength (← r.size v) (← r.trimFlag flag)))
  | .maxLength, v :: flag => do .ok (.text (.maxLength (← r.size v) (← r.trimFlag flag)))
  | .pattern, v :: _ => do .ok (.text (← r.pattern v))
  | .enum, v :: _ => do .ok (.text (.enum (← r.names v)))
  | .email, _ => .ok (.text .email)
  | .integer, _ => .ok (.number .integer)
  | .lowerOrEqual, v :: _ => do .ok (.number (.compare .atMost (← r.number v)))
  | .greaterOrEqual, v :: _ => do .ok (.number (.compare .atLeast (← r.number v)))
  | .equal, v :: _ => do .ok (.number (.compare .equal (← r.number v)))
  | .greaterThan, v :: _ => do .ok (.number (.compare .above (← r.number v)))
  | .lowerThan, v :: _ => do .ok (.number (.compare .below (← r.number v)))
  | .between, low :: high :: _ => do .ok (.number (← r.range low high))
  | .elementType, v :: _ => do .ok (.array (.elementType (← r.elementType v)))
  | .minSize, v :: _ => do .ok (.array (.minSize (← r.size v)))
  | .maxSize, v :: _ => do .ok (.array (.maxSize (← r.size v)))
  | .size, v :: _ => do .ok (.array (.size (← r.size v)))
  | c, arguments => .error (.argumentCount r.key r.type c.expectedLength (arguments.length + 1))

end Rule

/-! ## Fields and schemas -/

/-- The message of the type and of the gate: a text that is not empty. -/
def requiredMessage (key : String) (missing : ConfigCause) : Option Json → Except ConfigCause String
  | none | some .null => .error missing
  | some (.text s) => if s.isEmpty then .error missing else .ok s
  | some _ => .error (.messageNotText key)

/-- A value in a message: texts as they are, all else as compact JSON. -/
def shown : Json → String
  | .text s => s
  | v => v.compact

section
variable [PatternEngine]

namespace FieldSpec

/-- The declared type and its message. -/
def typeRule (f : FieldSpec) : Except ConfigCause (FieldType × String) :=
  match f.get? typeKey with
  | none | some [] => .error .typeNotSpecified
  | some (v :: rest) =>
    match v.text?.bind FieldType.ofName? with
    | none => .error (.unknownType (shown v))
    | some t => do
      if 1 < rest.length then .error (.argumentCount typeKey t "2" (rest.length + 1))
      else .ok (t, ← requiredMessage typeKey .missingTypeMessage rest.head?)

/-- The gate of a field of the type. -/
def gateRule (t : FieldType) (f : FieldSpec) : Except ConfigCause Gate :=
  match f.get? requiredKey with
  | none => .ok .optional
  | some arguments => do
    if 1 < arguments.length then .error (.argumentCount requiredKey t "1" arguments.length)
    else .ok (.required (← requiredMessage requiredKey .missingRequiredMessage arguments.head?))

/-- The step of a rule other than the type and the gate. -/
def stepRule (t : FieldType) (key : String) (arguments : List Json) : Except ConfigCause Step :=
  if key = optionalKey then .error (.reservedKey key)
  else match t.constraint? key with
    | none => .error (.unknownConstraint key t)
    | some c =>
      match arguments.getLast? with
      | none => .error (.argumentCount key t c.expectedLength 0)
      | some message =>
        if !c.accepts (arguments.length - 1) then
          .error (.argumentCount key t c.expectedLength arguments.length)
        else match message with
          | .text message => do
            .ok ⟨key, ← Rule.check ⟨key, t⟩ c arguments.dropLast, message⟩
          | _ => .error (.messageNotText key)

/-- The rules that make steps of their own. -/
def stepRules (f : FieldSpec) : List (String × List Json) :=
  f.toList.filter fun e => e.1 ≠ typeKey ∧ e.1 ≠ requiredKey

/-- The pipeline of a declaration. -/
def compile (f : FieldSpec) : Except ConfigCause Pipeline := do
  let (t, message) ← f.typeRule
  let gate ← f.gateRule t
  let steps ← f.stepRules.mapM fun e => stepRule t e.1 e.2
  .ok ⟨gate, t, ⟨typeKey, .type t, message⟩ :: steps⟩

/-- The pipeline of a named field. -/
def compileAs (name : String) (f : FieldSpec) : Except ConfigError Pipeline :=
  match f.compile with
  | .ok p => .ok p
  | .error cause => .error ⟨name, cause⟩

end FieldSpec

namespace SchemaSpec

/-- The compiled schema. -/
def compile (s : SchemaSpec) : Except ConfigError Schema :=
  s.toList.mapM fun e => (FieldSpec.compileAs e.1 e.2).map fun p => (e.1, p)

end SchemaSpec

/-! ## Schemas from JSON -/

/-- Why a schema cannot be used. -/
inductive SchemaError where
  | config (e : ConfigError)
  | misfit (m : Json.Misfit)
  | fault (f : Json.Fault)

def SchemaError.message : SchemaError → String
  | config e => "Invalid schema configuration: " ++ e.message
  | misfit m => "JSON error: Failed to parse schema configuration: " ++ m.message
  | fault f => "JSON error: Failed to parse schema configuration: " ++ f.message

namespace Schema

def ofSpec (s : SchemaSpec) : Except SchemaError Schema :=
  s.compile.mapError .config

def ofJson (v : Json) : Except SchemaError Schema := do
  ofSpec (← (SchemaSpec.ofJson v).mapError .misfit)

def ofText (s : String) : Except SchemaError Schema := do
  ofSpec (← (SchemaSpec.ofText s).mapError .fault)

end Schema

end

end FieldRules
