/-
Decimal literals: an optional sign, digits with at most one point, and an optional power of ten.
At least one digit stands before the power, on either side of the point. `number?` reads a text
that is a literal surrounded by blanks and gives the nearest finite number.
-/
import FieldRules.Decimal.Binary64
import FieldRules.Text.Blank

namespace FieldRules.Decimal

/-- The value of a run of decimal digits. -/
def digitsValue (cs : List Char) : Nat :=
  cs.foldl (fun n c => n * 10 + (c.toNat - 48)) 0

/-- The sign in front of a literal: whether it is a minus, and what follows. -/
def sign : List Char → Bool × List Char
  | '-' :: rest => (true, rest)
  | '+' :: rest => (false, rest)
  | cs => (false, cs)

/-- The power of ten at the end of a literal; nothing else may follow. -/
def power? : List Char → Option Int
  | [] => some 0
  | c :: rest =>
    if c = 'e' ∨ c = 'E' then
      let (neg, digits) := sign rest
      if digits.isEmpty || !digits.all Char.isDigit then none
      else some (if neg then -(digitsValue digits : Int) else digitsValue digits)
    else none

/-- The digits behind the point of a literal, if it has one, and what follows. -/
def fraction : List Char → List Char × List Char
  | '.' :: rest => (rest.takeWhile Char.isDigit, rest.dropWhile Char.isDigit)
  | cs => ([], cs)

/-- Sign, coefficient and exponent of a literal. -/
def literal? (cs : List Char) : Option (Bool × Nat × Int) :=
  let (neg, body) := sign cs
  let whole := body.takeWhile Char.isDigit
  let (fraction, rest) := fraction (body.dropWhile Char.isDigit)
  if whole.isEmpty && fraction.isEmpty then none
  else (power? rest).map fun e => (neg, digitsValue (whole ++ fraction), e - fraction.length)

/-- The finite number that a text spells, blanks around it aside. -/
def number? (s : String) : Option Binary64 :=
  (literal? (Text.trim s.toList)).bind fun (neg, n, e) => Binary64.ofDecimal neg n e

end FieldRules.Decimal
