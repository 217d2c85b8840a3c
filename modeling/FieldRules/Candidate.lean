/-
What the checks ask of a candidate. A candidate is the value of a field, or nothing when the record
has no such field. A candidate counts as a number when it is one, or when it is a text that spells
a finite one with blanks around it.
-/
import FieldRules.FieldType
import FieldRules.Decimal.Literal

namespace FieldRules

/-- The value under test, if the record has one. -/
abbrev Candidate := Option Json

namespace Candidate

/-- Present, not null, and not blank when it is a text. -/
def isDefined : Candidate → Bool
  | none => false
  | some .null => false
  | some (.text s) => !Text.isBlankText s
  | some _ => true

/-- Missing or null. -/
def isAbsent : Candidate → Bool
  | none => true
  | some v => v.isNull

end Candidate

/-! ## Numbers -/

/-- The number that a value stands for. -/
def Json.asNumber : Json → Option Binary64
  | .number n => some n.toBinary64
  | .text s => Decimal.number? s
  | _ => none

/-- The ways to compare a number with a bound. -/
inductive Comparison where
  | atMost
  | atLeast
  | equal
  | above
  | below
deriving DecidableEq

namespace Comparison

def all : List Comparison :=
  [atMost, atLeast, equal, above, below]

def holds : Comparison → Binary64 → Binary64 → Bool
  | atMost, x, b => x ≤ b
  | atLeast, x, b => b ≤ x
  | equal, x, b => x.same b
  | above, x, b => b < x
  | below, x, b => x < b

end Comparison

namespace Json

def isNumeric (v : Json) : Bool :=
  v.asNumber.isSome

def isIntegral (v : Json) : Bool :=
  match v.asNumber with
  | some x => x.isIntegral
  | none => false

/-- A value that is no number compares with nothing. -/
def compares (op : Comparison) (v : Json) (bound : Binary64) : Bool :=
  match v.asNumber with
  | some x => op.holds x bound
  | none => false

/-- Both ends belong to the range. -/
def isBetween (v : Json) (lower upper : Binary64) : Bool :=
  match v.asNumber with
  | some x => lower ≤ x && x ≤ upper
  | none => false

end Json

/-! ## Types and sizes -/

/-- Whether a value has a type; texts that spell numbers are numbers. -/
def FieldType.admits : FieldType → Json → Bool
  | .string, v => v.isText
  | .boolean, v => v.isBool
  | .number, v => v.isNumeric
  | .array, v => v.isList
  | .object, v => v.isObject

/-- The number of characters, with or without the blanks at the ends. -/
def textLength (s : String) (trimmed : Bool) : Nat :=
  if trimmed then (Text.trim s.toList).length else s.toList.length

end FieldRules
