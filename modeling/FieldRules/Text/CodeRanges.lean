/-
Sets of code points as sorted, disjoint ranges. The text form is a list of hexadecimal ranges such
as `41-5A 5F 61-7A`; membership is a binary search.
-/
import FieldRules.Text.Find

namespace FieldRules.Text

/-- Sorted, disjoint ranges of code points, both ends included. -/
structure CodeRanges where
  ranges : Array (Nat × Nat)
deriving Inhabited

/-- The value of a hexadecimal digit. -/
def hexDigit? (c : Char) : Option Nat :=
  let n := c.toNat
  if 48 ≤ n ∧ n ≤ 57 then some (n - 48)
  else if 97 ≤ n ∧ n ≤ 102 then some (n - 87)
  else if 65 ≤ n ∧ n ≤ 70 then some (n - 55)
  else none

/-- The value of a run of hexadecimal digits; other characters count as zero. -/
def hexValue (cs : List Char) : Nat :=
  cs.foldl (fun n c => n * 16 + (hexDigit? c).getD 0) 0

namespace CodeRanges

/-- A range written `first-last` or as one code point. -/
def rangeOfText (cs : List Char) : Nat × Nat :=
  match splitAt '-' cs with
  | [first, last] => (hexValue first, hexValue last)
  | _ => (hexValue cs, hexValue cs)

/-- The ranges of several lines of text. -/
def ofTexts (lines : List String) : CodeRanges :=
  ⟨(lines.flatMap fun line => (splitAt ' ' line.toList).map rangeOfText).toArray⟩

/-- Binary search for the range around `n` between two indices. -/
def search (a : Array (Nat × Nat)) (n lo hi : Nat) : Bool :=
  if lo < hi then
    let mid := (lo + hi) / 2
    match a[mid]? with
    | none => false
    | some (first, last) =>
      if n < first then search a n lo mid
      else if last < n then search a n (mid + 1) hi
      else true
  else false
termination_by hi - lo

def contains (t : CodeRanges) (n : Nat) : Bool :=
  search t.ranges n 0 t.ranges.size

end CodeRanges

end FieldRules.Text
