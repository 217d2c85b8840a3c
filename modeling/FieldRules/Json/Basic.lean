/-
JSON values. Integers of the unsigned and signed 64-bit ranges are kept exactly; every other
number is the nearest finite binary number. Objects keep the order of their members.
-/
import FieldRules.Decimal.Binary64
import FieldRules.Entries

namespace FieldRules

/-- A number of a JSON document. -/
inductive Number where
  /-- An integer from zero upwards. -/
  | natural (n : Fin (twoPow 64))
  /-- The negative integer `-(n + 1)`. -/
  | negative (n : Fin (twoPow 63))
  /-- A number with a point or an exponent, or beyond the two integer ranges. -/
  | real (x : Binary64)
deriving DecidableEq

/-- The nearest number of the binary format. -/
def Number.toBinary64 : Number → Binary64
  | natural n => Binary64.ofNat false n
  | negative n => Binary64.ofNat true (n + 1)
  | real x => x

/-- A JSON value. -/
inductive Json where
  | null
  | bool (b : Bool)
  | number (n : Number)
  | text (s : String)
  | list (items : List Json)
  | object (members : List (String × Json))

namespace Json

instance : Inhabited Json := ⟨null⟩

/-- A whole number as a value; numbers beyond 64 bits are cut to them. -/
def ofNat (n : Nat) : Json :=
  number (.natural ⟨n % twoPow 64, Nat.mod_lt n (twoPow_pos 64)⟩)

/-- An object with the given members; a repeated key keeps its first place and its last value. -/
def ofPairs (pairs : List (String × Json)) : Json :=
  object (pairs.foldl (fun l e => Entries.put e.1 e.2 l) [])

def ofOption {α : Type} (f : α → Json) : Option α → Json
  | none => null
  | some a => f a

/-- The value of an object under a key; other values have no keys. -/
def get? (key : String) : Json → Option Json
  | object members => Entries.lookup key members
  | _ => none

def isNull : Json → Bool
  | null => true
  | _ => false

def isBool : Json → Bool
  | bool _ => true
  | _ => false

def isNumber : Json → Bool
  | number _ => true
  | _ => false

def isText : Json → Bool
  | text _ => true
  | _ => false

def isList : Json → Bool
  | list _ => true
  | _ => false

def isObject : Json → Bool
  | object _ => true
  | _ => false

def text? : Json → Option String
  | text s => some s
  | _ => none

def list? : Json → Option (List Json)
  | list items => some items
  | _ => none

def bool? : Json → Option Bool
  | bool b => some b
  | _ => none

def natural? : Json → Option Nat
  | number (.natural n) => some n
  | _ => none

end Json

end FieldRules
