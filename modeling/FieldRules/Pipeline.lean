/-
Compiled fields and schemas. A field is a gate and a list of steps, the type check first; the gate
decides what becomes of a missing value, and the message of the first failing step is the answer.
-/
import FieldRules.Check

namespace FieldRules

/-- What comes before every step. -/
inductive Gate where
  | required (message : String)
  | optional

/-- A check with the key it was declared under and the message of its failure. -/
structure Step where
  key : String
  check : Check
  message : String

/-- A compiled field. -/
structure Pipeline where
  gate : Gate
  type : FieldType
  steps : List Step

/-- A compiled schema: pipelines by field name. -/
abbrev Schema := List (String × Pipeline)

/-- What the gate says of a candidate. -/
inductive GateOutcome where
  | requiredPass
  | requiredFail (message : String)
  | optionalAbsent
  | optionalPresent

namespace Gate

def isRequired : Gate → Bool
  | required _ => true
  | optional => false

def evaluate (candidate : Candidate) : Gate → GateOutcome
  | required message => if candidate.isDefined then .requiredPass else .requiredFail message
  | optional => if candidate.isAbsent then .optionalAbsent else .optionalPresent

end Gate

/-- The message of a step that fails on a value. -/
def Step.run (v : Json) (s : Step) : Option String :=
  if s.check.passes v then none else some s.message

namespace Pipeline

def isRequired (p : Pipeline) : Bool :=
  p.gate.isRequired

/-- The keys of the steps, the gate first. -/
def stepNames (p : Pipeline) : List String :=
  (if p.isRequired then "required" else "optional") :: p.steps.map Step.key

/-- The number of steps, the gate among them. -/
def stepCount (p : Pipeline) : Nat :=
  p.steps.length + 1

/-- The message of the first step that fails, before templating. -/
def run (candidate : Candidate) (p : Pipeline) : Option String :=
  match p.gate.evaluate candidate with
  | .optionalAbsent => none
  | .requiredFail message => some message
  | .requiredPass | .optionalPresent => candidate.bind fun v => p.steps.findSome? (Step.run v)

end Pipeline

namespace Schema

def fieldNames (s : Schema) : List String :=
  s.map Prod.fst

def get? (s : Schema) (name : String) : Option Pipeline :=
  Entries.lookup name s

end Schema

end FieldRules
