/-
What an unquoted scalar stands for: nothing, a flag, a number or a text. Integers may be written in
base two, eight, ten or sixteen; digits behind a needless zero are a text.
-/
import FieldRules.Decimal.Literal
import FieldRules.Entries
import FieldRules.Text.CodeRanges
import FieldRules.Text.Find

namespace FieldRules.Yaml

/-- The meaning of an unquoted scalar. -/
inductive Scalar where
  | null
  | bool (b : Bool)
  /-- An integer of at most 128 bits. -/
  | integer (n : Int)
  | real (x : Binary64)
  | infinite (neg : Bool)
  | notANumber
  | text (s : String)
deriving DecidableEq

/-- The value of a run of digits in a base up to sixteen; at least one digit. -/
def digits? (base : Nat) (cs : List Char) : Option Nat :=
  if cs.isEmpty then none
  else cs.foldlM (fun n c => do
    let d ← Text.hexDigit? c
    if d < base then some (n * base + d) else none) 0

/-- Whether a scalar is digits behind a zero. -/
def hasNeedlessZero (cs : List Char) : Bool :=
  let (_, body) := Decimal.sign cs
  1 < body.length && body.head? == some '0' && body.all Char.isDigit

/-- The magnitude of an integer behind its sign. -/
def magnitude? (cs : List Char) : Option Nat :=
  match cs with
  | '0' :: 'x' :: rest => digits? 16 rest
  | '0' :: 'o' :: rest => digits? 8 rest
  | '0' :: 'b' :: rest => digits? 2 rest
  | _ => digits? 10 cs

/-- The integer that a scalar spells, within 128 bits. -/
def integer? (cs : List Char) : Option Int :=
  if hasNeedlessZero cs then none
  else
    let (neg, body) := Decimal.sign cs
    match magnitude? body with
    | none => none
    | some n =>
      if neg then if n ≤ twoPow 127 then some (-(n : Int)) else none
      else if n < twoPow 128 then some n else none

/-- The words for nothing. -/
def nullWords : List String :=
  ["~", "null", "Null", "NULL"]

/-- The words for the two flags. -/
def boolWords : List (String × Bool) :=
  [("true", true), ("True", true), ("TRUE", true), ("false", false), ("False", false), ("FALSE", false)]

def bool? (s : String) : Option Bool :=
  Entries.lookup s boolWords

/-- The words for what is a number and not finite. -/
def specialWords : List (String × Scalar) :=
  [".inf", ".Inf", ".INF", "+.inf", "+.Inf", "+.INF"].map (fun w => (w, .infinite false)) ++
    ["-.inf", "-.Inf", "-.INF"].map (fun w => (w, .infinite true)) ++
    [".nan", ".NaN", ".NAN"].map (fun w => (w, .notANumber))

/-- The number that a scalar spells, whether it is finite or not. -/
def float? (s : String) : Option Scalar :=
  match Entries.lookup s specialWords with
  | some w => some w
  | none => ((Decimal.literal? s.toList).bind fun (neg, n, e) => Binary64.ofDecimal neg n e).map .real

/-- The meaning of an unquoted scalar. -/
def Scalar.ofPlain (s : String) : Scalar :=
  if s.isEmpty || nullWords.contains s then .null
  else match bool? s with
    | some b => .bool b
    | none =>
      match integer? s.toList with
      | some n => .integer n
      | none => (if hasNeedlessZero s.toList then none else float? s).getD (.text s)

/-- Whether a text that stands unquoted reads back as itself, and is not mistaken for a number. -/
def staysText (s : String) : Bool :=
  Scalar.ofPlain s = .text s && !hasNeedlessZero s.toList

end FieldRules.Yaml
