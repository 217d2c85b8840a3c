/-
A place in a YAML text. Characters are counted from the beginning of the text and of the line, since
indentation and the reach of a key depend on them.
-/
import FieldRules.Yaml.Character

namespace FieldRules.Yaml

/-- The rest of a text and where it begins. -/
structure Cursor where
  rest : List Char
  index : Nat
  line : Nat
  column : Nat

namespace Cursor

def start (cs : List Char) : Cursor :=
  ⟨cs, 0, 0, 0⟩

def peek (c : Cursor) : Option Char :=
  c.rest.head?

/-- Whether the next character is `d`. -/
def sees (d : Char) (c : Cursor) : Bool :=
  c.peek == some d

/-- Whether the next character has a property. -/
def seesAny (p : Char → Bool) (c : Cursor) : Bool :=
  (c.peek.map p).getD false

/-- Whether a blank, a break or the end lies `n` characters ahead. -/
def gapAt (n : Nat) (c : Cursor) : Bool :=
  isGap c.rest[n]?

/-- The cursor behind `n` characters of the line. -/
def skip (n : Nat) (c : Cursor) : Cursor :=
  ⟨c.rest.drop n, c.index + n, c.line, c.column + n⟩

/-- The next characters with a property, and the cursor behind them. -/
def span (p : Char → Bool) (c : Cursor) : List Char × Cursor :=
  let run := c.rest.takeWhile p
  (run, c.skip run.length)

def skipBlanks (c : Cursor) : Cursor :=
  (c.span isBlank).2

/-- The cursor at the end of the line. -/
def skipToBreak (c : Cursor) : Cursor :=
  (c.span fun d => !isBreak d).2

/-- A line break as it counts in a text, and the cursor on the next line. -/
def lineBreak? (c : Cursor) : Option (List Char × Cursor) :=
  match c.rest with
  | '\r' :: '\n' :: rest => some (['\n'], ⟨rest, c.index + 2, c.line + 1, 0⟩)
  | d :: rest =>
    if isBreak d then
      some (if d = '\u2028' ∨ d = '\u2029' then [d] else ['\n'], ⟨rest, c.index + 1, c.line + 1, 0⟩)
    else none
  | [] => none

/-- The cursor on the next line, when the line ends here. -/
def skipBreak (c : Cursor) : Cursor :=
  (c.lineBreak?.map Prod.snd).getD c

/-- Blanks and a comment up to the end of the line, behind its break. -/
def endOfLine? (c : Cursor) : Option Cursor :=
  let c := c.skipBlanks
  let c := if c.sees '#' then c.skipToBreak else c
  if c.rest.isEmpty || c.seesAny isBreak then some c.skipBreak else none

/-- Whether a mark of three characters stands alone at the beginning of the line. -/
def seesMark (d : Char) (c : Cursor) : Bool :=
  c.column == 0 && c.rest.take 3 == [d, d, d] && c.gapAt 3

/-- Whether a document begins or ends here. -/
def seesDocumentMark (c : Cursor) : Bool :=
  c.seesMark '-' || c.seesMark '.'

end Cursor

end FieldRules.Yaml
