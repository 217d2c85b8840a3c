/-
Checks with typed arguments. A check of a value of the wrong kind fails.
-/
import FieldRules.Candidate
import FieldRules.Email
import FieldRules.Pattern.Engine

namespace FieldRules

/-- Checks of texts. -/
inductive TextCheck where
  | minLength (size : Nat) (trimmed : Bool)
  | maxLength (size : Nat) (trimmed : Bool)
  | pattern (source : String) (search : Search)
  | enum (allowed : List String)
  | email

/-- Checks of numbers. The lower end of a range is below its upper end. -/
inductive NumberCheck where
  | integer
  | compare (op : Comparison) (bound : Binary64)
  | between (lower upper : Binary64) (ordered : lower < upper)

/-- Checks of arrays. -/
inductive ArrayCheck where
  | elementType (type : ElementType)
  | minSize (size : Nat)
  | maxSize (size : Nat)
  | size (size : Nat)

/-- A check of any kind. -/
inductive Check where
  | type (t : FieldType)
  | text (c : TextCheck)
  | number (c : NumberCheck)
  | array (c : ArrayCheck)

def TextCheck.passes (s : String) : TextCheck → Bool
  | minLength size trimmed => size ≤ textLength s trimmed
  | maxLength size trimmed => textLength s trimmed ≤ size
  | pattern _ search => search s
  | enum allowed => allowed.contains s
  | email => Email.isAddress s

def NumberCheck.passes (v : Json) : NumberCheck → Bool
  | integer => v.isIntegral
  | compare op bound => v.compares op bound
  | between lower upper _ => v.isBetween lower upper

def ArrayCheck.passes (items : List Json) : ArrayCheck → Bool
  | elementType type => items.all type.admits
  | minSize n => n ≤ items.length
  | maxSize n => items.length ≤ n
  | size n => items.length == n

def Check.passes (v : Json) : Check → Bool
  | type t => t.admits v
  | text c =>
    match v with
    | .text s => c.passes s
    | _ => false
  | number c => c.passes v
  | array c =>
    match v with
    | .list items => c.passes items
    | _ => false

end FieldRules
