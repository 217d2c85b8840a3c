/-
Classes of characters: ranges and tables of code points, closed under the set operations and under
case. Membership is decided by computing on the expression, so a class is as large as its writing.
-/
import FieldRules.Text.Casing

namespace FieldRules

/-- A set of code points. -/
inductive CharClass where
  | range (first last : Nat)
  | table (ranges : Text.CodeRanges)
  | union (parts : List CharClass)
  | both (a b : CharClass)
  | minus (a b : CharClass)
  | differ (a b : CharClass)
  | outside (a : CharClass)
  /-- The characters that differ in case only from one of the class. -/
  | anyCase (a : CharClass)
  /-- The same for letters of ASCII alone. -/
  | anyAsciiCase (a : CharClass)

namespace CharClass

instance : Inhabited CharClass := ⟨union []⟩

/-- The code points that differ from `n` in the case of an ASCII letter only. -/
def asciiVariants (n : Nat) : List Nat :=
  if 65 ≤ n ∧ n ≤ 90 then [n, n + 32] else if 97 ≤ n ∧ n ≤ 122 then [n, n - 32] else [n]

mutual

def contains : CharClass → Nat → Bool
  | range first last, n => first ≤ n && n ≤ last
  | table r, n => r.contains n
  | union parts, n => anyContains parts n
  | both a b, n => a.contains n && b.contains n
  | minus a b, n => a.contains n && !b.contains n
  | differ a b, n => a.contains n != b.contains n
  | outside a, n => !a.contains n
  | anyCase a, n => (Text.caseVariants n).any a.contains
  | anyAsciiCase a, n => (asciiVariants n).any a.contains

def anyContains : List CharClass → Nat → Bool
  | [], _ => false
  | a :: rest, n => a.contains n || anyContains rest n

end

def single (c : Char) : CharClass :=
  range c.toNat c.toNat

/-- The characters of a text. -/
def ofChars (cs : List Char) : CharClass :=
  union (cs.map single)

def all : CharClass :=
  range 0 0x10FFFF

/-! ## Named classes -/

/-- The Unicode property White_Space. -/
def blank : CharClass :=
  union [range 9 13, range 0x20 0x20, range 0x85 0x85, range 0xA0 0xA0, range 0x1680 0x1680,
    range 0x2000 0x200A, range 0x2028 0x2029, range 0x202F 0x202F, range 0x205F 0x205F, range 0x3000 0x3000]

def digitRanges : Text.CodeRanges := Text.Category.decimalNumber.ranges

def digit : CharClass := table digitRanges

def wordTables : List Text.CodeRanges :=
  [Text.Property.alphabetic.ranges, Text.Category.nonspacingMark.ranges, Text.Category.spacingMark.ranges,
    Text.Category.enclosingMark.ranges, digitRanges, Text.Category.connectorPunctuation.ranges,
    Text.Property.joinControl.ranges]

/-- Letters, marks, decimal digits and connectors. -/
def word : CharClass := union (wordTables.map table)

def asciiDigit : CharClass := range 48 57

def asciiLower : CharClass := range 97 122

def asciiUpper : CharClass := range 65 90

def asciiWord : CharClass := union [asciiDigit, asciiLower, asciiUpper, range 95 95]

def asciiBlank : CharClass := union [range 9 13, range 32 32]

/-- The classes of ASCII characters that are known by name. -/
def ofAsciiName? (name : String) : Option CharClass :=
  match name with
  | "alnum" => some (union [asciiDigit, asciiLower, asciiUpper])
  | "alpha" => some (union [asciiLower, asciiUpper])
  | "ascii" => some (range 0 127)
  | "blank" => some (union [range 9 9, range 32 32])
  | "cntrl" => some (union [range 0 31, range 127 127])
  | "digit" => some asciiDigit
  | "graph" => some (range 33 126)
  | "lower" => some asciiLower
  | "print" => some (range 32 126)
  | "punct" => some (union [range 33 47, range 58 64, range 91 96, range 123 126])
  | "space" => some asciiBlank
  | "upper" => some asciiUpper
  | "word" => some asciiWord
  | "xdigit" => some (union [asciiDigit, range 97 102, range 65 70])
  | _ => none

end CharClass

end FieldRules
