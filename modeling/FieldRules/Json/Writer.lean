/-
The text forms of JSON values: compact, without blanks, and indented by two blanks a level.
Numbers that are not integers have the shortest digits that read back, with a point for decimal
exponents from -5 to 15 and with an exponent beyond.
-/
import FieldRules.Json.Basic
import FieldRules.Decimal.Shortest

namespace FieldRules

/-- Positional for decimal exponents from -5 to 15, and signed exponents beyond. -/
def Json.numberLayout : Binary64.Layout :=
  ⟨fun e => -5 ≤ e && e ≤ 15, true, true⟩

def Number.chars : Number → List Char
  | natural n => Nat.toDigits 10 n
  | negative n => '-' :: Nat.toDigits 10 (n + 1)
  | real x => Json.numberLayout.write x

namespace Json

/-- A control character as `\u00xx`. -/
def controlEscape (n : Nat) : List Char :=
  ['\\', 'u', '0', '0', Nat.digitChar (n / 16), Nat.digitChar (n % 16)]

/-- A character of a text as it stands between the quotes. -/
def escapeChar (c : Char) : List Char :=
  if c = '"' then ['\\', '"']
  else if c = '\\' then ['\\', '\\']
  else if c = '\x08' then ['\\', 'b']
  else if c = '\x0c' then ['\\', 'f']
  else if c = '\n' then ['\\', 'n']
  else if c = '\r' then ['\\', 'r']
  else if c = '\t' then ['\\', 't']
  else if c.toNat < 32 then controlEscape c.toNat
  else [c]

def textChars (s : String) : List Char :=
  '"' :: s.toList.flatMap escapeChar ++ ['"']

def boolChars (b : Bool) : List Char :=
  if b then ['t', 'r', 'u', 'e'] else ['f', 'a', 'l', 's', 'e']

/-! ## Compact form -/

mutual

def chars : Json → List Char
  | null => ['n', 'u', 'l', 'l']
  | bool b => boolChars b
  | number n => n.chars
  | text s => textChars s
  | list items => '[' :: itemChars items ++ [']']
  | object members => '\x7b' :: memberChars members ++ ['\x7d']

def itemChars : List Json → List Char
  | [] => []
  | [v] => chars v
  | v :: rest => chars v ++ ',' :: itemChars rest

def memberChars : List (String × Json) → List Char
  | [] => []
  | [(k, v)] => textChars k ++ ':' :: chars v
  | (k, v) :: rest => textChars k ++ ':' :: chars v ++ ',' :: memberChars rest

end

/-- The text of a value without any blanks. -/
def compact (v : Json) : String :=
  String.ofList v.chars

/-! ## Indented form -/

/-- A line break and the indentation of a level. -/
def lineBreak (level : Nat) : List Char :=
  '\n' :: List.replicate (2 * level) ' '

mutual

def indentedChars (level : Nat) : Json → List Char
  | null => ['n', 'u', 'l', 'l']
  | bool b => boolChars b
  | number n => n.chars
  | text s => textChars s
  | list [] => ['[', ']']
  | list (v :: rest) => '[' :: indentedItems (level + 1) (v :: rest) ++ lineBreak level ++ [']']
  | object [] => ['\x7b', '\x7d']
  | object (e :: rest) => '\x7b' :: indentedMembers (level + 1) (e :: rest) ++ lineBreak level ++ ['\x7d']

def indentedItems (level : Nat) : List Json → List Char
  | [] => []
  | [v] => lineBreak level ++ indentedChars level v
  | v :: rest => lineBreak level ++ indentedChars level v ++ ',' :: indentedItems level rest

def indentedMembers (level : Nat) : List (String × Json) → List Char
  | [] => []
  | [(k, v)] => lineBreak level ++ textChars k ++ ':' :: ' ' :: indentedChars level v
  | (k, v) :: rest =>
    lineBreak level ++ textChars k ++ ':' :: ' ' :: indentedChars level v ++ ',' :: indentedMembers level rest

end

/-- The text of a value with one item or member a line. -/
def indented (v : Json) : String :=
  String.ofList (v.indentedChars 0)

end Json

end FieldRules
