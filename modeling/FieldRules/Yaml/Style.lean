/-
How a text is written as a scalar: plain where that reads back as the same text, in single quotes
where it does not, in double quotes when a character has to be escaped, and as a literal block of
lines when it has line breaks.
-/
import FieldRules.Yaml.Character
import FieldRules.Yaml.Scalar

namespace FieldRules.Yaml

/-! ## Characters -/

/-- Whether two neighbours have the two properties. -/
def hasPair (p q : Char → Bool) : List Char → Bool
  | a :: b :: rest => (p a && q b) || hasPair p q (b :: rest)
  | _ => false

/-- The characters that mark structure at the beginning of a scalar. -/
def openingMarks : List Char :=
  ['#', ',', '[', ']', '\x7b', '\x7d', '&', '*', '!', '|', '>', '\'', '"', '%', '@', '`']

/-- Whether the beginning of a text would be read as structure. -/
def opensStructure (cs : List Char) : Bool :=
  match cs with
  | [] => false
  | c :: rest =>
    openingMarks.contains c || ((c = '?' || c = '-') && isGap rest.head?) ||
      cs.take 3 == ['-', '-', '-'] || cs.take 3 == ['.', '.', '.']

/-- Whether some part of a text would be read as the end of a key or as a comment. -/
def holdsStructure (cs : List Char) : Bool :=
  hasPair (· = ':') (fun c => isGap (some c)) cs || cs.getLast? == some ':' ||
    hasPair (fun c => isGap (some c)) (· = '#') cs

/-! ## Styles -/

/-- The ways to write a text; the folded one is only read. -/
inductive Style where
  | plain
  | single
  | double
  | literal
  | folded
deriving DecidableEq

def plainAllowed (cs : List Char) : Bool :=
  cs.all (fun c => isPrintable c && !isBreak c) && cs.head? != some ' ' && cs.getLast? != some ' ' &&
    !opensStructure cs && !holdsStructure cs

def singleAllowed (cs : List Char) : Bool :=
  cs.all isPrintable && !hasPair isBreak (· = ' ') cs && !hasPair (· = ' ') isBreak cs

def literalAllowed (cs : List Char) : Bool :=
  cs.all isPrintable && !hasPair (· = ' ') isBreak cs && cs.getLast? != some ' '

/-- The style that a text is written in. -/
def Style.ofText (s : String) : Style :=
  let cs := s.toList
  if cs.contains '\n' then if literalAllowed cs then literal else double
  else if plainAllowed cs && staysText s then plain
  else if singleAllowed cs then single
  else double

/-! ## Quotes -/

/-- A code of at least `width` upper-case hexadecimal digits. -/
def hexCode (width n : Nat) : List Char :=
  let ds := (Nat.toDigits 16 n).map Char.toUpper
  List.replicate (width - ds.length) '0' ++ ds

/-- The escapes of one letter. -/
def shortEscapes : List (Char × Char) :=
  [('\x00', '0'), ('\x07', 'a'), ('\x08', 'b'), ('\t', 't'), ('\n', 'n'), ('\x0b', 'v'), ('\x0c', 'f'),
    ('\r', 'r'), ('\x1b', 'e'), ('"', '"'), ('\\', '\\'), ('\u0085', 'N'), ('\u2028', 'L'), ('\u2029', 'P')]

/-- A character between double quotes. -/
def escaped (c : Char) : List Char :=
  match shortEscapes.find? fun e => e.1 = c with
  | some e => ['\\', e.2]
  | none =>
    if isPrintable c then [c]
    else if c.toNat < 0x100 then '\\' :: 'x' :: hexCode 2 c.toNat
    else if c.toNat < 0x10000 then '\\' :: 'u' :: hexCode 4 c.toNat
    else '\\' :: 'U' :: hexCode 8 c.toNat

def doubleQuoted (cs : List Char) : List Char :=
  '"' :: cs.flatMap escaped ++ ['"']

def singleQuoted (cs : List Char) : List Char :=
  '\'' :: cs.flatMap (fun c => if c = '\'' then ['\'', '\''] else [c]) ++ ['\'']

/-! ## Lines -/

/-- The lines of a text, each with its break. -/
def splitLines : List Char → List (List Char)
  | [] => []
  | c :: cs =>
    if isBreak c then [c] :: splitLines cs
    else match splitLines cs with
      | [] => [[c]]
      | line :: lines => (c :: line) :: lines

def endsInBreak (cs : List Char) : Bool :=
  (cs.getLast?.map isBreak).getD false

/-- The head of a literal block: a hint when the text begins with a blank, and what becomes of the
breaks at the end: none, one or all are kept. -/
def literalHead (cs : List Char) : List Char :=
  let hint := if cs.head? == some ' ' || (cs.head?.map isBreak).getD false then ['2'] else []
  let breaks := (cs.reverse.takeWhile isBreak).length
  let keep := if breaks = 0 then ['-'] else if breaks = 1 && 1 < cs.length then [] else ['+']
  '|' :: hint ++ keep ++ ['\n']

/-- A text in a style other than the literal one. -/
def Style.inline (style : Style) (cs : List Char) : List Char :=
  match style with
  | plain | literal | folded => cs
  | single => singleQuoted cs
  | double => doubleQuoted cs

/-- The lines of a text as a scalar. -/
def textLines (s : String) : List (List Char) :=
  let cs := s.toList
  match Style.ofText s with
  | .literal => literalHead cs :: splitLines (if endsInBreak cs then cs else cs ++ ['\n'])
  | style => splitLines (style.inline cs ++ ['\n'])

end FieldRules.Yaml
