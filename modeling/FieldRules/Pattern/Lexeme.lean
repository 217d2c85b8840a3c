/-
The parts of a pattern that hold no other patterns: characters, numbers, names, flags and escapes.
The reader keeps the rest of the text, its place, whether blanks and comments are skipped, and the
group names seen so far.
-/
import FieldRules.Decimal.Literal
import FieldRules.Pattern.Node
import FieldRules.Text.CodeRanges
import FieldRules.Text.Property

namespace FieldRules.Pattern

/-- The state of the reader of a pattern. -/
structure State where
  rest : List Char
  point : Point
  skipping : Bool
  names : List (String × Span)

/-- A reader of a part of a pattern. -/
abbrev Parse := StateT State (Except Fault)

/-- The place behind a character. -/
def Point.after (p : Point) (c : Char) : Point :=
  if c = '\n' then ⟨p.line + 1, 1⟩ else ⟨p.line, p.column + 1⟩

/-- The text without the blanks and comments in front; a comment runs to the end of its line. -/
def dropBlanks : Bool → List Char → Point → List Char × Point
  | _, [], p => ([], p)
  | true, c :: cs, p => dropBlanks (c != '\n') cs (p.after c)
  | false, c :: cs, p =>
    if Text.isBlank c then dropBlanks false cs (p.after c)
    else if c = '#' then dropBlanks true cs (p.after c)
    else (c :: cs, p)

namespace State

/-- Behind the blanks and comments, where they are skipped. -/
def skip (s : State) : State :=
  if s.skipping then
    let (rest, point) := dropBlanks false s.rest s.point
    { s with rest, point }
  else s

/-- Behind the next character. -/
def bump (s : State) : State :=
  match s.rest with
  | [] => s
  | c :: rest => { s with rest, point := s.point.after c }

/-- Behind the next character and what is skipped after it. -/
def next (s : State) : State :=
  s.bump.skip

/-- The place of the next character. -/
def span (s : State) : Span :=
  ⟨s.point, s.bump.point⟩

end State

namespace Parse

variable {α : Type}

def fail (cause : Flaw) (span : Span) : Parse α :=
  throw (.flaw cause span)

/-- Fails at the place in front of the next character. -/
def failHere (cause : Flaw) : Parse α := do
  let p := (← get).point
  fail cause ⟨p, p⟩

/-- Fails at the next character. -/
def failAtChar (cause : Flaw) : Parse α := do
  fail cause (← get).span

/-- Fails from a place up to the current one. -/
def failFrom (cause : Flaw) (first : Point) : Parse α := do
  fail cause ⟨first, (← get).point⟩

def bump : Parse Unit := modify State.bump

/-- Passes over a character and the blanks after it; whether anything is left. -/
def next : Parse Bool := do
  modify State.next
  return !(← get).rest.isEmpty

/-- The next character; a blank stands for the end. -/
def current : Parse Char := do
  return (← get).rest.headD ' '

def atEnd : Parse Bool := do
  return (← get).rest.isEmpty

/-- Passes over a text if it comes next. -/
def bumpIf (text : List Char) : Parse Bool := do
  let s ← get
  if text.isPrefixOf s.rest then
    set (text.foldl (fun s _ => State.bump s) s)
    return true
  else return false

/-! ## Numbers -/

/-- Passes over characters of a class together with skipped blanks, and collects them. -/
def collect (p : Char → Bool) : Nat → Parse (List Char)
  | 0 => return []
  | fuel + 1 => do
    match (← get).rest with
    | [] => return []
    | c :: _ =>
      if p c then
        modify State.next
        return c :: (← collect p fuel)
      else return []

def collectAll (p : Char → Bool) : Parse (List Char) := do
  collect p (← get).rest.length

/-- A decimal number of 32 bits, or the fault of what stands there. -/
def decimal : Parse (Except Fault Nat) := do
  modify fun s =>
    let blanks := (s.rest.takeWhile Text.isBlank).length
    (List.range blanks).foldl (fun s _ => s.bump) s
  let first := (← get).point
  let digits ← collectAll Char.isDigit
  let span : Span := ⟨first, (← get).point⟩
  let _ ← collectAll Text.isBlank
  if digits.isEmpty then return .error (.flaw .repeatDecimal span)
  else if twoPow 32 ≤ Decimal.digitsValue digits then return .error (.flaw .decimalInvalid span)
  else return .ok (Decimal.digitsValue digits)

/-- A character by its code point, when it is one. -/
def scalar? (n : Nat) : Option Char :=
  if h : n.isValidChar then some (Char.ofNatAux n h) else none

/-- A fixed number of hexadecimal digits. -/
def hexDigits : Nat → List Char → Parse (List Char)
  | 0, seen => return seen.reverse
  | k + 1, seen => do
    if !seen.isEmpty then
      if !(← next) then failHere .escapeEnd
    let c ← current
    if (Text.hexDigit? c).isNone then failAtChar .hexDigit
    hexDigits k (c :: seen)

/-- The hexadecimal digits between braces, from the opening brace to the closing one. -/
def hexBraced (brace : Point) : Nat → Parse (List Char)
  | 0 => failFrom .escapeEnd brace
  | fuel + 1 => do
    if !(← next) then failFrom .escapeEnd brace
    let c ← current
    if c = '\x7d' then return []
    else if (Text.hexDigit? c).isNone then failAtChar .hexDigit
    else return c :: (← hexBraced brace fuel)

/-- A character by hexadecimal digits, behind the letter that announces them. -/
def hex (first : Point) (kind : Char) : Parse Literal := do
  if !(← next) then failHere .escapeEnd
  let start := (← get).point
  if (← current) = '\x7b' then
    let inner := (← get).bump.point
    let digits ← hexBraced start ((← get).rest.length + 1)
    let last := (← get).point
    let _ ← next
    if digits.isEmpty then failFrom .hexEmpty start
    match scalar? (Text.hexValue digits) with
    | some c => return ⟨⟨first, (← get).point⟩, c, false⟩
    | none => fail .hexInvalid ⟨inner, last⟩
  else
    let count := if kind = 'x' then 2 else if kind = 'u' then 4 else 8
    let digits ← hexDigits count []
    let _ ← next
    match scalar? (Text.hexValue digits) with
    | some c => return ⟨⟨first, (← get).point⟩, c, kind = 'x'⟩
    | none => failFrom .hexInvalid start

/-! ## Names -/

/-- The part of a text in front of a mark, and the part behind it. -/
def cutAt? (mark : List Char) : List Char → Option (List Char × List Char)
  | [] => none
  | c :: cs =>
    match Text.dropLead? mark (c :: cs) with
    | some rest => some ([], rest)
    | none => (cutAt? mark cs).map fun (a, b) => (c :: a, b)

/-- A property between braces: a name alone, or a name and a value; whether it is negated by its
operator. -/
def propertyOfText (cs : List Char) : PropertyName × Bool :=
  match cutAt? ['!', '='] cs with
  | some (a, b) => (.valued (String.ofList a) (String.ofList b), true)
  | none =>
    match cutAt? [':'] cs with
    | some (a, b) => (.valued (String.ofList a) (String.ofList b), false)
    | none =>
      match cutAt? ['='] cs with
      | some (a, b) => (.valued (String.ofList a) (String.ofList b), false)
      | none => (.named (String.ofList cs), false)

/-- The characters between braces, from the opening brace to the closing one. -/
def braced : Nat → Parse (List Char)
  | 0 => failHere .escapeEnd
  | fuel + 1 => do
    if !(← next) then failHere .escapeEnd
    let c ← current
    if c = '\x7d' then return [] else return c :: (← braced fuel)

/-- A property behind its letter, with its negations counted. -/
def property (first : Point) (negated : Bool) : Parse (Span × PropertyName × Bool) := do
  if !(← next) then failHere .escapeEnd
  let c ← current
  if c = '\x7b' then
    let (name, opposite) := propertyOfText (← braced ((← get).rest.length + 1))
    bump
    return (⟨first, (← get).point⟩, name, negated != opposite)
  else if c = '\\' then failAtChar .propertyInvalid
  else
    let _ ← next
    return (⟨first, (← get).point⟩, .named (String.singleton c), negated)

def alphabeticRanges : Text.CodeRanges := Text.Property.alphabetic.ranges

def numericRanges : List Text.CodeRanges :=
  [Text.Category.decimalNumber, Text.Category.letterNumber, Text.Category.otherNumber].map Text.CodeClass.ranges

/-- The characters of group names; digits, points and brackets do not begin one. -/
def isNameChar (c : Char) (isFirst : Bool) : Bool :=
  let n := c.toNat
  c = '_' || alphabeticRanges.contains n ||
    (!isFirst && (c = '.' || c = '[' || c = ']' || numericRanges.any (·.contains n)))

/-- The characters of a group name up to the closing bracket. -/
def nameChars : Nat → Bool → Parse (List Char)
  | 0, _ => failHere .nameEnd
  | fuel + 1, isFirst => do
    match (← get).rest with
    | [] => failHere .nameEnd
    | c :: _ =>
      if c = '>' then return []
      else if !isNameChar c isFirst then failAtChar .nameInvalid
      else
        bump
        return c :: (← nameChars fuel false)

/-- The name of a group, which no earlier group has. -/
def groupName : Parse Unit := do
  let first := (← get).point
  let name := String.ofList (← nameChars ((← get).rest.length + 1) true)
  let span : Span := ⟨first, (← get).point⟩
  bump
  if name.isEmpty then fail .nameEmpty ⟨first, first⟩
  match (← get).names.find? fun e => e.1 = name with
  | some e => fail (.nameDuplicate e.2) span
  | none => modify fun s => { s with names := (name, span) :: s.names }

/-! ## Flags -/

def flagOfChar? (c : Char) : Option Flag :=
  match c with
  | 'i' => some .ignoreCase
  | 'm' => some .multiLine
  | 's' => some .dotAll
  | 'U' => some .swapGreed
  | 'u' => some .unicode
  | 'R' => some .crlf
  | 'x' => some .ignoreBlanks
  | _ => none

/-- The flags up to the colon or the closing parenthesis, with the earlier items and their places. -/
def flagItems : Nat → List (FlagItem × Span) → Parse (List (FlagItem × Span))
  | 0, _ => failHere .flagEnd
  | fuel + 1, seen => do
    let c ← current
    if c = ':' ∨ c = ')' then
      match seen.getLast? with
      | some (.negation, span) => fail .flagDangling span
      | _ => return seen
    else
      let span := (← get).span
      let item ← if c = '-' then pure FlagItem.negation
        else match flagOfChar? c with
          | some f => pure (FlagItem.flag f)
          | none => fail .flagUnknown span
      match seen.find? fun e => e.1 = item with
      | some (.negation, earlier) => fail (.flagRepeatedNegation earlier) span
      | some (_, earlier) => fail (.flagDuplicate earlier) span
      | none =>
        bump
        if ← atEnd then failHere .flagEnd
        flagItems fuel (seen ++ [(item, span)])

/-! ## Escapes -/

/-- One escaped or plain character, class or assertion. -/
inductive Atom where
  | literal (l : Literal)
  | dot (span : Span)
  | anchor (span : Span) (kind : Anchor)
  | shorthand (span : Span) (kind : Shorthand) (negated : Bool)
  | property (span : Span) (name : PropertyName) (negated : Bool)

def Atom.span : Atom → Span
  | literal l => l.span
  | dot s | anchor s _ | shorthand s _ _ | property s _ _ => s

/-- Characters that stand for themselves behind a backslash: all of ASCII but letters, digits and angle
brackets. -/
def isEscapable (c : Char) : Bool :=
  c.toNat < 128 && !c.isAlphanum && c != '<' && c != '>'

def specialEscape? (c : Char) : Option Char :=
  match c with
  | 'a' => some '\x07'
  | 'f' => some '\x0c'
  | 't' => some '\t'
  | 'n' => some '\n'
  | 'r' => some '\r'
  | 'v' => some '\x0b'
  | _ => none

def anchorEscape? (c : Char) : Option Anchor :=
  match c with
  | 'A' => some .textStart
  | 'z' => some .textEnd
  | 'b' => some .wordBoundary
  | 'B' => some .noWordBoundary
  | '<' => some .wordStart
  | '>' => some .wordEnd
  | _ => none

def shorthandEscape? (c : Char) : Option (Shorthand × Bool) :=
  match c with
  | 'd' => some (.digit, false)
  | 's' => some (.blank, false)
  | 'w' => some (.word, false)
  | 'D' => some (.digit, true)
  | 'S' => some (.blank, true)
  | 'W' => some (.word, true)
  | _ => none

def boundaryName? (s : List Char) : Option Anchor :=
  match String.ofList s with
  | "start" => some .wordStart
  | "end" => some .wordEnd
  | "start-half" => some .wordStartHalf
  | "end-half" => some .wordEndHalf
  | _ => none

/-- A word boundary named between braces; braces that hold no name belong to a repetition. -/
def namedBoundary (first : Point) : Parse (Option Anchor) := do
  let before ← get
  let isName (c : Char) : Bool := c.isAlpha || c = '-'
  if !(← next) then failFrom .boundaryEnd first
  let inner := (← get).point
  if !isName (← current) then
    set before
    return none
  else
    let name ← collectAll isName
    if (← atEnd) || (← current) != '\x7d' then failFrom .boundaryUnclosed before.point
    let last := (← get).point
    bump
    match boundaryName? name with
    | some kind => return some kind
    | none => fail .boundaryUnknown ⟨inner, last⟩

/-- An escape, from the backslash on. -/
def escape : Parse Atom := do
  let first := (← get).point
  bump
  if ← atEnd then failFrom .escapeEnd first
  let c ← current
  if c.isDigit then fail .backreference ⟨first, (← get).bump.point⟩
  else if c = 'x' ∨ c = 'u' ∨ c = 'U' then return .literal (← hex first c)
  else if c = 'p' ∨ c = 'P' then
    let (span, name, negated) ← property first (c = 'P')
    return .property span name negated
  else
    bump
    let span : Span := ⟨first, (← get).point⟩
    match shorthandEscape? c with
    | some (kind, negated) => return .shorthand span kind negated
    | none =>
      if isEscapable c then return .literal ⟨span, c, false⟩
      else match specialEscape? c with
        | some d => return .literal ⟨span, d, false⟩
        | none =>
          match anchorEscape? c with
          | some kind =>
            if c = 'b' ∧ (← get).rest.head? = some '\x7b' then
              match ← namedBoundary first with
              | some kind => return .anchor ⟨first, (← get).point⟩ kind
              | none => return .anchor span kind
            else return .anchor span kind
          | none => fail .escapeUnknown span

/-- A character, class or assertion outside brackets. -/
def atom : Parse Atom := do
  let c ← current
  let span := (← get).span
  if c = '\\' then escape
  else
    bump
    if c = '.' then return .dot span
    else if c = '^' then return .anchor span .lineStart
    else if c = '$' then return .anchor span .lineEnd
    else return .literal ⟨span, c, false⟩

end Parse

end FieldRules.Pattern
