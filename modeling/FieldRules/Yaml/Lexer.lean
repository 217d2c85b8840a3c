/-
From a text to its tokens. Blocks begin and end where the indentation grows and shrinks. A key is known
only by the colon behind it, so the place of whatever may turn out to be one is kept until then: a key
has one line and at most 1024 characters, and where nothing but a key can stand, it has to be one.
-/
import FieldRules.Yaml.Name

namespace FieldRules.Yaml

/-- The beginning of what may turn out to be a key. -/
structure KeyStart where
  /-- The number of tokens in front of it. -/
  position : Nat
  required : Bool
  index : Nat
  line : Nat
  column : Nat

/-- The tokens so far, and what is open at the cursor. -/
structure Lexer where
  cursor : Cursor
  tokens : Array Token
  /-- The columns of the open blocks, the innermost first. -/
  blocks : List Nat
  /-- The possible key inside the innermost bracket. -/
  keyStart : Option KeyStart
  /-- The possible keys outside of it, one for every open bracket. -/
  outerStarts : List (Option KeyStart)
  keyAllowed : Bool

namespace Lexer

def start (cs : List Char) : Lexer :=
  ⟨.start cs, #[], [], none, [], true⟩

/-- Whether a bracket is open. -/
def inFlow (l : Lexer) : Bool :=
  !l.outerStarts.isEmpty

/-- The column of the innermost block; -1 outside of all. -/
def indent (l : Lexer) : Int :=
  match l.blocks with
  | [] => -1
  | n :: _ => n

def emit (t : Token) (l : Lexer) : Lexer :=
  { l with tokens := l.tokens.push t }

/-- A token of `n` characters at the cursor. -/
def emitMark (n : Nat) (t : Token) (l : Lexer) : Lexer :=
  { l with tokens := l.tokens.push t, cursor := l.cursor.skip n }

/-! ## Keys -/

/-- Nothing before the cursor is a key any more. -/
def dropKey (l : Lexer) : Option Lexer :=
  match l.keyStart with
  | none => some l
  | some k => if k.required then none else some { l with keyStart := none }

/-- What begins at the cursor may be a key. -/
def saveKey (l : Lexer) : Option Lexer :=
  if l.keyAllowed then do
    let l ← l.dropKey
    let c := l.cursor
    let required := !l.inFlow && l.indent == c.column
    some { l with keyStart := some ⟨l.tokens.size, required, c.index, c.line, c.column⟩ }
  else some l

/-- A possible key as far as the cursor still lies within its reach. -/
def keepStart (c : Cursor) : Option KeyStart → Option (Option KeyStart)
  | none => some none
  | some k =>
    if k.line < c.line || k.index + 1024 < c.index then if k.required then none else some none
    else some (some k)

/-- Possible keys that have become too long are none. -/
def dropStale (l : Lexer) : Option Lexer := do
  some { l with
    keyStart := ← keepStart l.cursor l.keyStart
    outerStarts := ← l.outerStarts.mapM (keepStart l.cursor) }

/-! ## Blocks -/

/-- A block begins in front of the token at `position`, when `column` lies further to the right. -/
def openBlock (t : Token) (position column : Nat) (l : Lexer) : Lexer :=
  if !l.inFlow && l.indent < column then
    { l with tokens := l.tokens.insertIdxIfInBounds position t, blocks := column :: l.blocks }
  else l

/-- The blocks right of `column` end. -/
def closeFrom (column : Int) : List Nat → Array Token → List Nat × Array Token
  | [], ts => ([], ts)
  | n :: blocks, ts => if column < n then closeFrom column blocks (ts.push .blockEnd) else (n :: blocks, ts)

def closeBlocks (column : Int) (l : Lexer) : Lexer :=
  if l.inFlow then l
  else
    let (blocks, tokens) := closeFrom column l.blocks l.tokens
    { l with blocks := blocks, tokens := tokens }

/-! ## Tokens -/

/-- A document mark or a directive: everything open ends. -/
def endAll (l : Lexer) : Option Lexer := do
  some { ← (l.closeBlocks (-1)).dropKey with keyAllowed := false }

def documentMark (t : Token) (l : Lexer) : Option Lexer := do
  some ((← l.endAll).emitMark 3 t)

def directive (l : Lexer) : Option Lexer := do
  let l ← l.endAll
  let (t, c) ← directive? l.cursor
  some { l.emit t with cursor := c }

def openBracket (t : Token) (l : Lexer) : Option Lexer := do
  let l ← l.saveKey
  some { l.emitMark 1 t with
    keyStart := none
    outerStarts := l.keyStart :: l.outerStarts
    keyAllowed := true }

def closeBracket (t : Token) (l : Lexer) : Option Lexer := do
  let l ← l.dropKey
  let (key, outer) := match l.outerStarts with
    | [] => (l.keyStart, [])
    | k :: ks => (k, ks)
  some { l.emitMark 1 t with keyStart := key, outerStarts := outer, keyAllowed := false }

def comma (l : Lexer) : Option Lexer := do
  some { (← l.dropKey).emitMark 1 .comma with keyAllowed := true }

/-- The dash of an item; inside brackets it is an error, which is left to whoever reads the tokens. -/
def dash (l : Lexer) : Option Lexer := do
  if !l.inFlow && !l.keyAllowed then none
  else
    let l ← (l.openBlock .listBlock l.tokens.size l.cursor.column).dropKey
    some { l.emitMark 1 .dash with keyAllowed := true }

/-- The mark of a key that is written out. -/
def key (l : Lexer) : Option Lexer := do
  if !l.inFlow && !l.keyAllowed then none
  else
    let l ← (l.openBlock .objectBlock l.tokens.size l.cursor.column).dropKey
    some { l.emitMark 1 .key with keyAllowed := !l.inFlow }

/-- The colon: what was a possible key is one. -/
def value (l : Lexer) : Option Lexer :=
  match l.keyStart with
  | some k =>
    let l := { l with tokens := l.tokens.insertIdxIfInBounds k.position .key }
    let l := l.openBlock .objectBlock k.position k.column
    some { l.emitMark 1 .value with keyStart := none, keyAllowed := false }
  | none =>
    if !l.inFlow && !l.keyAllowed then none
    else
      let l := l.openBlock .objectBlock l.tokens.size l.cursor.column
      some { l.emitMark 1 .value with keyAllowed := !l.inFlow }

/-- A token that may begin a key. -/
def content (read : Cursor → Option (Token × Cursor)) (l : Lexer) : Option Lexer := do
  let l ← l.saveKey
  let (t, c) ← read l.cursor
  some { l.emit t with cursor := c, keyAllowed := false }

def name (make : String → Token) : Lexer → Option Lexer :=
  content fun c => (anchorName? (c.skip 1)).map fun (s, c) => (make s, c)

def quoted (single : Bool) : Lexer → Option Lexer :=
  content fun c => (quotedText? single c).map fun (cs, c) =>
    (.scalar (if single then .single else .double) (String.ofList cs), c)

def plain (l : Lexer) : Option Lexer := do
  let l ← l.saveKey
  let (cs, broken, c) ← plainText? l.inFlow (l.indent + 1).toNat l.cursor
  some { l.emit (.scalar .plain (String.ofList cs)) with cursor := c, keyAllowed := broken }

def block (literal : Bool) (l : Lexer) : Option Lexer := do
  let l ← l.dropKey
  let (cs, c) ← blockText? literal l.indent l.cursor
  some { l.emit (.scalar (if literal then .literal else .folded) (String.ofList cs)) with
    cursor := c, keyAllowed := true }

/-! ## Running -/

/-- Passes over blanks, comments and line breaks. Tabs are blanks only where no key may begin. -/
def toNext : Nat → Lexer → Lexer
  | 0, l => l
  | fuel + 1, l =>
    let c := if l.cursor.column == 0 && l.cursor.sees '\ufeff' then l.cursor.skip 1 else l.cursor
    let tabs := l.inFlow || !l.keyAllowed
    let c := (c.span fun d => d = ' ' || (tabs && d = '\t')).2
    let c := if c.sees '#' then c.skipToBreak else c
    match c.lineBreak? with
    | some (_, c) => toNext fuel { l with cursor := c, keyAllowed := l.keyAllowed || !l.inFlow }
    | none => { l with cursor := c }

/-- The characters that begin no plain scalar, unless something follows them. -/
def isMark (c : Char) : Bool :=
  openingMarks.contains c || c = '-' || c = '?' || c = ':'

/-- The token at the cursor, which is not at the end. -/
def step (l : Lexer) : Option Lexer :=
  let c := l.cursor
  let gap := c.gapAt 1
  if c.column == 0 && c.sees '%' then l.directive
  else if c.seesMark '-' then l.documentMark .documentStart
  else if c.seesMark '.' then l.documentMark .documentEnd
  else if c.sees '[' then l.openBracket .listOpen
  else if c.sees '\x7b' then l.openBracket .objectOpen
  else if c.sees ']' then l.closeBracket .listClose
  else if c.sees '\x7d' then l.closeBracket .objectClose
  else if c.sees ',' then l.comma
  else if c.sees '-' && gap then l.dash
  else if c.sees '?' && (l.inFlow || gap) then l.key
  else if c.sees ':' && (l.inFlow || gap) then l.value
  else if c.sees '*' then l.name .reference
  else if c.sees '&' then l.name .anchor
  else if c.sees '!' then l.content (tag? l.inFlow)
  else if c.sees '|' && !l.inFlow then l.block true
  else if c.sees '>' && !l.inFlow then l.block false
  else if c.sees '\'' then l.quoted true
  else if c.sees '"' then l.quoted false
  else if !c.gapAt 0 && (!c.seesAny isMark || c.sees '-' || (!l.inFlow && (c.sees '?' || c.sees ':'))) then l.plain
  else none

def run : Nat → Lexer → Option (List Token)
  | 0, _ => none
  | fuel + 1, l => do
    let l ← (l.toNext (l.cursor.rest.length + 1)).dropStale
    let l := l.closeBlocks l.cursor.column
    if l.cursor.rest.isEmpty then
      let l ← (l.closeBlocks (-1)).dropKey
      some l.tokens.toList
    else run fuel (← l.step)

end Lexer

/-- The tokens of a text. -/
def tokens? (s : String) : Option (List Token) :=
  let cs := s.toList
  let cs := if cs.head? = some '\ufeff' then cs.drop 1 else cs
  if cs.all isPermitted then (Lexer.start cs).run (cs.length + 1) else none

end FieldRules.Yaml
