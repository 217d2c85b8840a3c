/-
The text of a scalar in each of its forms. Line breaks inside a plain or quoted scalar are folded: a
single one is a blank, of several the first is dropped. A block keeps its breaks or folds them, and
ends at the first line that is indented less than its text.
-/
import FieldRules.Text.CodeRanges
import FieldRules.Yaml.Cursor

namespace FieldRules.Yaml

/-! ## Gaps -/

/-- The blanks and line breaks between two words of a scalar. -/
structure Gap where
  blanks : List Char
  firstBreak : List Char
  laterBreaks : List Char
  broken : Bool

namespace Gap

def none : Gap := ⟨[], [], [], false⟩

/-- The first break behind an escape, which leaves nothing. -/
def escapedBreak : Gap := ⟨[], [], [], true⟩

/-- A first break in front of later ones, folded. -/
def fold (first later : List Char) : List Char :=
  if first = ['\n'] then if later.isEmpty then [' '] else later
  else first ++ later

/-- What the gap leaves in the text. -/
def text (g : Gap) : List Char :=
  if g.broken then fold g.firstBreak g.laterBreaks else g.blanks

/-- Adds the blanks and breaks at the cursor. Behind a break no tab may stand in front of the column
`indent`. -/
def read (indent : Nat) : Nat → Gap → Cursor → Option (Gap × Cursor)
  | 0, _, _ => Option.none
  | fuel + 1, g, c =>
    if c.seesAny isBlank then
      if g.broken then
        if c.column < indent && c.sees '\t' then Option.none else read indent fuel g (c.skip 1)
      else read indent fuel { g with blanks := g.blanks ++ c.rest.take 1 } (c.skip 1)
    else match c.lineBreak? with
      | Option.none => some (g, c)
      | some (b, c) =>
        let g := if g.broken then { g with laterBreaks := g.laterBreaks ++ b } else ⟨[], b, [], true⟩
        read indent fuel g c

end Gap

/-! ## Plain scalars -/

def isFlowMark (c : Char) : Bool :=
  c = ',' || c = '[' || c = ']' || c = '\x7b' || c = '\x7d'

/-- The number of characters up to the next gap or to the end of a plain scalar. Inside brackets a colon
may not touch a mark. -/
def wordSize? (flow : Bool) : List Char → Option Nat
  | [] => some 0
  | c :: rest =>
    let next := rest.head?
    if isGap (some c) then some 0
    else if flow && c = ':' && (next == some '?' || (next.map isFlowMark).getD false) then none
    else if (c = ':' && isGap next) || (flow && isFlowMark c) then some 0
    else (wordSize? flow rest).map (· + 1)

/-- A plain scalar behind the words read so far; the flag tells whether it ends behind a line break. -/
def plainFrom (flow : Bool) (indent : Nat) : Nat → List Char → Gap → Cursor → Option (List Char × Bool × Cursor)
  | 0, _, _, _ => none
  | fuel + 1, text, g, c =>
    if c.seesDocumentMark || c.sees '#' then some (text, g.broken, c)
    else do
      let n ← wordSize? flow c.rest
      let text := if n = 0 then text else text ++ g.text ++ c.rest.take n
      let g := if n = 0 then g else .none
      let c := c.skip n
      if !c.seesAny fun d => isBlank d || isBreak d then some (text, g.broken, c)
      else
        let (g, c) ← g.read indent (c.rest.length + 1) c
        if !flow && c.column < indent then some (text, g.broken, c)
        else plainFrom flow indent fuel text g c

/-- A plain scalar that has to stay right of the column `indent` on further lines. -/
def plainText? (flow : Bool) (indent : Nat) (c : Cursor) : Option (List Char × Bool × Cursor) :=
  plainFrom flow indent (c.rest.length + 1) [] .none c

/-! ## Quoted scalars -/

/-- The escapes of one character. -/
def escapes : List (Char × Char) :=
  [('0', '\x00'), ('a', '\x07'), ('b', '\x08'), ('t', '\t'), ('\t', '\t'), ('n', '\n'), ('v', '\x0b'),
    ('f', '\x0c'), ('r', '\r'), ('e', '\x1b'), (' ', ' '), ('"', '"'), ('/', '/'), ('\\', '\\'),
    ('N', '\u0085'), ('_', '\u00a0'), ('L', '\u2028'), ('P', '\u2029')]

/-- The number of digits in the escape of a code. -/
def codeSize? (c : Char) : Option Nat :=
  if c = 'x' then some 2 else if c = 'u' then some 4 else if c = 'U' then some 8 else none

/-- The character of an escape behind the backslash, and the size of the escape. -/
def escape? (cs : List Char) : Option (Char × Nat) :=
  match cs with
  | [] => none
  | c :: rest =>
    match escapes.find? fun e => e.1 = c with
    | some e => some (e.2, 1)
    | none => do
      let n ← codeSize? c
      let digits := rest.take n
      if digits.length < n || !digits.all (fun d => (Text.hexDigit? d).isSome) then none
      else
        let code := Text.hexValue digits
        if code.isValidChar then some (Char.ofNat code, n + 1) else none

/-- The characters up to the next gap or to the closing quote, behind those seen before from right to
left; the flag tells of an escaped break. -/
def quotedWord (single : Bool) : Nat → List Char → Cursor → Option (List Char × Bool × Cursor)
  | 0, _, _ => none
  | fuel + 1, seen, c =>
    match c.rest with
    | [] => some (seen.reverse, false, c)
    | d :: rest =>
      if isGap (some d) then some (seen.reverse, false, c)
      else if single then
        if d ≠ '\'' then quotedWord single fuel (d :: seen) (c.skip 1)
        else if rest.head? = some '\'' then quotedWord single fuel (d :: seen) (c.skip 2)
        else some (seen.reverse, false, c)
      else if d = '"' then some (seen.reverse, false, c)
      else if d ≠ '\\' then quotedWord single fuel (d :: seen) (c.skip 1)
      else if (rest.head?.map isBreak).getD false then some (seen.reverse, true, (c.skip 1).skipBreak)
      else do
        let (e, n) ← escape? rest
        quotedWord single fuel (e :: seen) (c.skip (n + 1))

def quotedFrom (single : Bool) : Nat → List Char → Cursor → Option (List Char × Cursor)
  | 0, _, _ => none
  | fuel + 1, text, c =>
    if c.seesDocumentMark || c.rest.isEmpty then none
    else do
      let (word, escaped, c) ← quotedWord single (c.rest.length + 1) [] c
      let text := text ++ word
      if c.sees (if single then '\'' else '"') then some (text, c.skip 1)
      else
        let (g, c) ← (if escaped then Gap.escapedBreak else .none).read 0 (c.rest.length + 1) c
        quotedFrom single fuel (text ++ g.text) c

/-- A quoted scalar, at its opening quote. -/
def quotedText? (single : Bool) (c : Cursor) : Option (List Char × Cursor) :=
  quotedFrom single (c.rest.length + 1) [] (c.skip 1)

/-! ## Blocks -/

/-- What becomes of the line breaks at the end of a block. -/
inductive Chomping where
  | strip
  | clip
  | keep
deriving DecidableEq

/-- The chomping of a mark. -/
def chomping? (c : Cursor) : Option Chomping :=
  if c.sees '+' then some .keep else if c.sees '-' then some .strip else none

/-- The indentation given in the head of a block; zero when there is none. -/
def indentHint? (c : Cursor) : Option (Nat × Cursor) :=
  match c.peek with
  | some d =>
    if d = '0' then none
    else if d.isDigit then some (d.toNat - 48, c.skip 1)
    else some (0, c)
  | none => some (0, c)

/-- Chomping and indentation in the head of a block, in either order. -/
def blockHead? (c : Cursor) : Option (Chomping × Nat × Cursor) := do
  match chomping? c with
  | some k =>
    let (n, c) ← indentHint? (c.skip 1)
    some (k, n, c)
  | none =>
    let (n, c) ← indentHint? c
    match chomping? c with
    | some k => some (k, n, c.skip 1)
    | none => some (.clip, n, c)

/-- The blank lines at the cursor: their breaks, the deepest column reached, and the cursor in the first
line that is not blank, behind its indentation. A zero limit lets every blank count as indentation. -/
def blankLines (limit : Nat) : Nat → Nat → List Char → Cursor → Option (List Char × Nat × Cursor)
  | 0, _, _, _ => none
  | fuel + 1, deepest, breaks, c =>
    let blanks := (c.rest.takeWhile (· = ' ')).length
    let c := c.skip (if limit = 0 then blanks else min blanks (limit - c.column))
    let deepest := max deepest c.column
    if (limit = 0 || c.column < limit) && c.sees '\t' then none
    else match c.lineBreak? with
      | some (b, c) => blankLines limit fuel deepest (breaks ++ b) c
      | none => some (breaks, deepest, c)

/-- A block behind the lines read so far. -/
structure Block where
  text : List Char
  firstBreak : List Char
  laterBreaks : List Char
  /-- Whether the last line begins with a blank. -/
  blankLead : Bool

/-- The text of a block with its breaks in front of another line. -/
def Block.joined (b : Block) (literal blankLead : Bool) : List Char :=
  if !literal && b.firstBreak = ['\n'] && !b.blankLead && !blankLead then
    b.text ++ Gap.fold b.firstBreak b.laterBreaks
  else b.text ++ b.firstBreak ++ b.laterBreaks

/-- The lines of a block that are indented up to the column `indent`. -/
def blockLines (literal : Bool) (indent : Nat) : Nat → Block → Cursor → Option (Block × Cursor)
  | 0, _, _ => none
  | fuel + 1, b, c =>
    if c.column = indent && !c.rest.isEmpty then do
      let blankLead := c.seesAny isBlank
      let (line, c) := c.span fun d => !isBreak d
      let text := b.joined literal blankLead ++ line
      let (first, c) := c.lineBreak?.getD ([], c)
      let (later, _, c) ← blankLines indent (c.rest.length + 1) 0 [] c
      blockLines literal indent fuel ⟨text, first, later, blankLead⟩ c
    else some (b, c)

/-- A block in a part of the document that is indented by `outer` columns, at its mark. -/
def blockText? (literal : Bool) (outer : Int) (c : Cursor) : Option (List Char × Cursor) := do
  let (k, hint, c) ← blockHead? (c.skip 1)
  let c ← c.endOfLine?
  let limit := if hint = 0 then 0 else (max outer 0).toNat + hint
  let (later, deepest, c) ← blankLines limit (c.rest.length + 1) 0 [] c
  let indent := if limit = 0 then max (max deepest (outer + 1).toNat) 1 else limit
  let (b, c) ← blockLines literal indent (c.rest.length + 1) ⟨[], [], later, false⟩ c
  some (match k with
    | .strip => b.text
    | .clip => b.text ++ b.firstBreak
    | .keep => b.text ++ b.firstBreak ++ b.laterBreaks, c)

end FieldRules.Yaml
