/-
The names in a YAML document: anchors and aliases, tags, and the directives in front of a document.
-/
import FieldRules.Yaml.ScalarText
import FieldRules.Yaml.Token

namespace FieldRules.Yaml

/-- The name of an anchor or an alias, behind its mark. -/
def anchorName? (c : Cursor) : Option (String × Cursor) :=
  let (name, c) := c.span isWordChar
  let ends := c.gapAt 0 ||
    c.seesAny fun d => d = '?' || d = ':' || d = ',' || d = ']' || d = '\x7d' || d = '%' || d = '@' || d = '`'
  if name.isEmpty || !ends then none else some (String.ofList name, c)

/-! ## Tags -/

/-- The characters of a tag; three more may stand between angle brackets. -/
def isTagChar (verbatim : Bool) (c : Char) : Bool :=
  isWordChar c || [';', '/', '?', ':', '@', '&', '=', '+', '$', '.', '%', '!', '~', '*', '\'', '(', ')'].contains c ||
    (verbatim && (c = ',' || c = '[' || c = ']'))

/-- The byte of a percent escape. -/
def escapedByte? : List Char → Option Nat
  | '%' :: a :: b :: _ => do some ((← Text.hexDigit? a) * 16 + (← Text.hexDigit? b))
  | _ => none

/-- The number of bytes of a character and the bits that its first byte gives. -/
def leadByte? (n : Nat) : Option (Nat × Nat) :=
  if n < 0x80 then some (1, n)
  else if n / 0x20 = 6 then some (2, n % 0x20)
  else if n / 0x10 = 14 then some (3, n % 0x10)
  else if n / 8 = 30 then some (4, n % 8)
  else none

/-- The bits of the further bytes of a character. -/
def trailBytes? : Nat → Nat → List Char → Option Nat
  | 0, code, _ => some code
  | k + 1, code, cs => do
    let n ← escapedByte? cs
    if n / 0x40 = 2 then trailBytes? k (code * 0x40 + n % 0x40) (cs.drop 3) else none

/-- The characters of a run with the percent escapes decoded. -/
def decodeTag : Nat → List Char → Option (List Char)
  | 0, _ => none
  | _ + 1, [] => some []
  | fuel + 1, c :: rest =>
    if c = '%' then do
      let (size, bits) ← leadByte? (← escapedByte? (c :: rest))
      let code ← trailBytes? (size - 1) bits (rest.drop 2)
      (← decodeTag fuel (rest.drop (3 * size - 1))).cons (Char.ofNat code)
    else do (← decodeTag fuel rest).cons c

/-- The run of tag characters at the cursor. -/
def tagRun? (verbatim : Bool) (c : Cursor) : Option (List Char × Cursor) := do
  let (run, c) := c.span (isTagChar verbatim)
  some (← decodeTag (run.length + 1) run, c)

/-- A handle: an exclamation mark, a name and another mark, or a single mark with what follows it. -/
def tagHandle? (c : Cursor) : Option (List Char × Cursor) :=
  if !c.sees '!' then none
  else
    let (name, c) := (c.skip 1).span isWordChar
    if c.sees '!' then some ('!' :: name ++ ['!'], c.skip 1) else some ('!' :: name, c)

/-- A handle and what follows it. -/
def tag? (flow : Bool) (c : Cursor) : Option (Token × Cursor) := do
  let (t, c) ←
    if c.rest.take 2 == ['!', '<'] then do
      let (run, c) ← tagRun? true (c.skip 2)
      if run.isEmpty || !c.sees '>' then none else some (Token.tag "" (String.ofList run), c.skip 1)
    else do
      let (handle, c) ← tagHandle? c
      let (run, c) ← tagRun? false c
      if 1 < handle.length && handle.getLast? == some '!' then
        if run.isEmpty then none else some (Token.tag (String.ofList handle) (String.ofList run), c)
      else
        let suffix := handle.drop 1 ++ run
        if suffix.isEmpty then some (Token.tag "" "!", c) else some (Token.tag "!" (String.ofList suffix), c)
  if (flow && c.sees ',') || c.gapAt 0 then some (t, c) else none

/-! ## Directives -/

/-- A number of at most nine digits. -/
def versionNumber? (c : Cursor) : Option (Nat × Cursor) :=
  let (digits, c) := c.span Char.isDigit
  if digits.isEmpty || 9 < digits.length then none else some (Decimal.digitsValue digits, c)

def versionDirective? (c : Cursor) : Option (Token × Cursor) := do
  let (major, c) ← versionNumber? c.skipBlanks
  if !c.sees '.' then none
  else
    let (minor, c) ← versionNumber? (c.skip 1)
    some (.version major minor, c)

def tagDirective? (c : Cursor) : Option (Token × Cursor) := do
  let (handle, c) ← tagHandle? c.skipBlanks
  if (1 < handle.length && handle.getLast? != some '!') || !c.seesAny isBlank then none
  else
    let (lead, c) ← tagRun? true c.skipBlanks
    if lead.isEmpty || !c.gapAt 0 then none
    else some (.tagShorthand (String.ofList handle) (String.ofList lead), c)

/-- A directive, at its percent sign. -/
def directive? (c : Cursor) : Option (Token × Cursor) := do
  let (name, c) := (c.skip 1).span isWordChar
  if !c.gapAt 0 then none
  else
    let (t, c) ←
      if name = ['Y', 'A', 'M', 'L'] then versionDirective? c
      else if name = ['T', 'A', 'G'] then tagDirective? c
      else none
    some (t, ← c.endOfLine?)

end FieldRules.Yaml
