/-
JSON values as YAML documents in block form. A value is a list of lines without the indentation of
what stands around it; a part is hung on its mark, `- ` in a list and its key in an object.
-/
import FieldRules.Json.Basic
import FieldRules.Decimal.Shortest
import FieldRules.Yaml.Style

namespace FieldRules.Yaml

/-- Positional for decimal exponents from -5 to 15; an exponent of zero or more has no sign. -/
def numberLayout : Binary64.Layout :=
  ⟨fun e => -5 ≤ e && e ≤ 15, true, false⟩

def numberText : Number → List Char
  | .natural n => Nat.toDigits 10 n
  | .negative n => '-' :: Nat.toDigits 10 (n + 1)
  | .real x => numberLayout.write x

/-- A line two blanks further to the right; an empty one stays empty. -/
def indent (line : List Char) : List Char :=
  if line.all isBreak then line else ' ' :: ' ' :: line

/-- Lines behind a mark: the first one on its line, the others indented. -/
def hang (mark : List Char) : List (List Char) → List (List Char)
  | [] => []
  | line :: lines => (mark ++ line) :: lines.map indent

/-- Whether a key stands on the line of its value: it has one line and at most 128 bytes. -/
def isShortKey (key : String) : Bool :=
  !key.toList.any isBreak && key.utf8ByteSize ≤ 128

/-- The members of one key; `nested` tells lists and objects with something in them. -/
def memberLines (key : String) (isNestedList isNestedObject : Bool) (value : List (List Char)) :
    List (List Char) :=
  if isShortKey key then
    let mark := (Style.ofText key).inline key.toList ++ [':']
    if isNestedList then (mark ++ ['\n']) :: value
    else if isNestedObject then (mark ++ ['\n']) :: value.map indent
    else hang (mark ++ [' ']) value
  else hang ['?', ' '] (textLines key) ++ hang [':', ' '] value

mutual

/-- The lines of a value. -/
def lines : Json → List (List Char)
  | .null => [['n', 'u', 'l', 'l', '\n']]
  | .bool b => [if b then ['t', 'r', 'u', 'e', '\n'] else ['f', 'a', 'l', 's', 'e', '\n']]
  | .number n => [numberText n ++ ['\n']]
  | .text s => textLines s
  | .list [] => [['[', ']', '\n']]
  | .list (v :: rest) => itemLines (v :: rest)
  | .object [] => [['\x7b', '\x7d', '\n']]
  | .object (e :: rest) => entryLines (e :: rest)

def itemLines : List Json → List (List Char)
  | [] => []
  | v :: rest => hang ['-', ' '] (lines v) ++ itemLines rest

def entryLines : List (String × Json) → List (List Char)
  | [] => []
  | (k, v) :: rest =>
    let isNestedList := v.isList && !(v.list?.getD []).isEmpty
    let isNestedObject := match v with
      | .object (_ :: _) => true
      | _ => false
    memberLines k isNestedList isNestedObject (lines v) ++ entryLines rest

end

/-- The document of a value. -/
def write (v : Json) : String :=
  let content := if v.isText then hang [] (lines v) else lines v
  String.ofList content.flatten

end FieldRules.Yaml
