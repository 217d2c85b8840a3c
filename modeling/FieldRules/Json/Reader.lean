/-
Reading JSON texts. `parse` reads a whole document; values may nest up to 127 levels. The loops over
items and members are shared with the readers of values of a known shape.
-/
import FieldRules.Json.Cursor

namespace FieldRules.Json

/-- One more than the number of levels that a document may nest. -/
def depthLimit : Nat := 128

namespace Cursor

variable {α : Type}

/-! ## Items and members -/

/-- Where the next item begins, or `none` at the closing bracket, with the cursor in front of it. -/
def nextItem (first : Bool) (s : Cursor) : Except Fault (Option Cursor × Cursor) :=
  let s := s.skipBlanks
  match s.rest with
  | [] => s.fail .endInList
  | c :: _ =>
    if c = ']' then .ok (none, s)
    else if first then .ok (some s, s)
    else if c = ',' then
      let s := (s.drop 1).skipBlanks
      match s.rest with
      | [] => s.fail .endInValue
      | d :: _ => if d = ']' then s.failNext .trailingComma else .ok (some s, s)
    else s.failNext .expectedCommaOrBracket

/-- The items of a list behind its opening bracket, up to the closing one, which is not read. -/
def items (item : Cursor → Except Fault (α × Cursor)) : Nat → Bool → Cursor → Except Fault (List α × Cursor)
  | 0, _, s => s.fail .endInList
  | fuel + 1, first, s => do
    match ← s.nextItem first with
    | (none, s) => .ok ([], s)
    | (some s, _) =>
      let (a, s) ← item s
      let (rest, s) ← items item fuel false s
      .ok (a :: rest, s)

/-- The closing bracket of a list. -/
def closeList (s : Cursor) : Except Fault Cursor :=
  let s := s.skipBlanks
  match s.rest with
  | [] => s.fail .endInList
  | c :: _ =>
    if c = ']' then .ok (s.drop 1)
    else if c = ',' then
      let s := (s.drop 1).skipBlanks
      if s.rest.head? = some ']' then s.failNext .trailingComma else s.failNext .trailingCharacters
    else s.failNext .trailingCharacters

/-- The colon between a key and its value. -/
def colon (s : Cursor) : Except Fault Cursor :=
  let s := s.skipBlanks
  match s.rest with
  | [] => s.fail .endInObject
  | c :: _ => if c = ':' then .ok (s.drop 1) else s.failNext .expectedColon

/-- The opening quote of the next key, or the end of the object, which is not read. -/
def nextKey (first : Bool) (s : Cursor) : Except Fault (Option Cursor × Cursor) :=
  let s := s.skipBlanks
  match s.rest with
  | [] => s.fail .endInObject
  | c :: _ =>
    if c = '\x7d' then .ok (none, s)
    else if first then if c = '"' then .ok (some (s.drop 1), s) else s.failNext .keyNotText
    else if c = ',' then
      let s := (s.drop 1).skipBlanks
      match s.rest with
      | [] => s.fail .endInValue
      | d :: _ =>
        if d = '"' then .ok (some (s.drop 1), s)
        else if d = '\x7d' then s.failNext .trailingComma
        else s.failNext .keyNotText
    else s.failNext .expectedCommaOrBrace

/-- The members of an object behind its opening brace, up to the closing one, which is not read.
The reader of a member's content begins behind the key and is told the earlier keys, the last first. -/
def members (content : List String → String → Cursor → Except Fault (α × Cursor)) :
    Nat → List String → Cursor → Except Fault (List (String × α) × Cursor)
  | 0, _, s => s.fail .endInObject
  | fuel + 1, seen, s => do
    match ← s.nextKey seen.isEmpty with
    | (none, s) => .ok ([], s)
    | (some s, _) =>
      let (key, s) ← s.text
      let (a, s) ← content seen key s
      let (rest, s) ← members content fuel (key :: seen) s
      .ok ((key, a) :: rest, s)

/-- The closing brace of an object. -/
def closeObject (s : Cursor) : Except Fault Cursor :=
  let s := s.skipBlanks
  match s.rest with
  | [] => s.fail .endInObject
  | c :: _ =>
    if c = '\x7d' then .ok (s.drop 1)
    else if c = ',' then s.failNext .trailingComma
    else s.failNext .trailingCharacters

/-! ## Values -/

/-- A value without parts; `none` when the next character begins no such value. -/
def scalar? (s : Cursor) : Option (Except Fault (Json × Cursor)) :=
  match s.rest with
  | [] => none
  | c :: _ =>
    if c = 'n' then some ((word ['u', 'l', 'l'] (s.drop 1)).map fun s => (.null, s))
    else if c = 't' then some ((word ['r', 'u', 'e'] (s.drop 1)).map fun s => (.bool true, s))
    else if c = 'f' then some ((word ['a', 'l', 's', 'e'] (s.drop 1)).map fun s => (.bool false, s))
    else if c = '-' then some (((s.drop 1).number true).map fun (n, s) => (.number n, s))
    else if c.isDigit then some ((s.number false).map fun (n, s) => (.number n, s))
    else if c = '"' then some ((s.drop 1).text.map fun (t, s) => (.text t, s))
    else none

/-- A value that nests fewer than `depth` levels. -/
def value : Nat → Cursor → Except Fault (Json × Cursor)
  | 0, s => s.skipBlanks.failNext .tooDeep
  | depth + 1, s =>
    let s := s.skipBlanks
    match s.scalar? with
    | some result => result
    | none =>
      match s.rest with
      | [] => s.fail .endInValue
      | c :: _ =>
        if c = '[' then
          if depth = 0 then s.failNext .tooDeep
          else do
            let (vs, s) ← items (value depth) s.rest.length true (s.drop 1)
            let s ← s.closeList
            .ok (.list vs, s)
        else if c = '\x7b' then
          if depth = 0 then s.failNext .tooDeep
          else do
            let content := fun _ _ (s : Cursor) => do value depth (← s.colon)
            let (pairs, s) ← members content s.rest.length [] (s.drop 1)
            let s ← s.closeObject
            .ok (.ofPairs pairs, s)
        else s.failNext .expectedValue

/-- Nothing but blanks up to the end. -/
def finish (s : Cursor) : Except Fault Unit :=
  let s := s.skipBlanks
  if s.rest.isEmpty then .ok () else s.failNext .trailingCharacters

/-! ## Values that are passed over -/

/-- Closes lists and objects as long as they end here; `open?` holds the innermost first, `true` for a
list. The answer is where the next value begins and what is still open, or the end of the value. -/
def skipBetween : Nat → Bool → List Bool → Cursor → Except Fault (Option (List Bool) × Cursor)
  | 0, _, _, s => s.fail .endInValue
  | _, _, [], s => .ok (none, s)
  | fuel + 1, afterItem, inList :: outer, s =>
    let s := s.skipBlanks
    let nextKey (s : Cursor) : Except Fault (Option (List Bool) × Cursor) := do
      if inList then .ok (some (inList :: outer), s)
      else
        let s := s.skipBlanks
        match s.rest with
        | [] => s.fail .endInObject
        | c :: _ =>
          if c = '"' then
            let s ← (s.drop 1).skipText
            let s ← s.colon
            .ok (some (inList :: outer), s)
          else s.failNext .keyNotText
    match s.rest with
    | [] => s.fail (if inList then .endInList else .endInObject)
    | c :: _ =>
      if c = ',' && afterItem then nextKey (s.drop 1)
      else if c = (if inList then ']' else '\x7d') then skipBetween fuel true outer (s.drop 1)
      else if afterItem then s.failNext (if inList then .expectedCommaOrBracket else .expectedCommaOrBrace)
      else nextKey s

/-- Passes over a value, whatever its depth and the size of its numbers. -/
def skipFrom : Nat → List Bool → Cursor → Except Fault Cursor
  | 0, _, s => s.fail .endInValue
  | fuel + 1, within, s => do
    let s := s.skipBlanks
    let (opened, s) ← match s.rest with
      | [] => s.fail .endInValue
      | c :: _ =>
        if c = 'n' then (word ['u', 'l', 'l'] (s.drop 1)).map fun s => (none, s)
        else if c = 't' then (word ['r', 'u', 'e'] (s.drop 1)).map fun s => (none, s)
        else if c = 'f' then (word ['a', 'l', 's', 'e'] (s.drop 1)).map fun s => (none, s)
        else if c = '-' then (s.drop 1).skipNumber.map fun s => (none, s)
        else if c.isDigit then s.skipNumber.map fun s => (none, s)
        else if c = '"' then (s.drop 1).skipText.map fun s => (none, s)
        else if c = '[' then .ok (some true, s.drop 1)
        else if c = '\x7b' then .ok (some false, s.drop 1)
        else s.failNext .expectedValue
    let next ← match opened with
      | some inList => skipBetween (s.rest.length + 1) false (inList :: within) s
      | none => skipBetween (s.rest.length + 1) true within s
    match next with
    | (none, s) => .ok s
    | (some within, s) => skipFrom fuel within s

def skipValue (s : Cursor) : Except Fault Cursor :=
  skipFrom (s.rest.length + 1) [] s

end Cursor

/-- The value that a text holds. -/
def parse (s : String) : Except Fault Json := do
  let (v, s) ← (Cursor.start s).value depthLimit
  s.finish
  .ok v

end FieldRules.Json
