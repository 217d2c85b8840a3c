/-
A position in a JSON text, and the lexical parts of the format: blanks, words, texts and numbers.
Each reader takes the text from the cursor on and gives the value with the cursor behind it, or
the fault. Places count bytes, and a fault about the next byte is placed behind that byte.
-/
import FieldRules.Json.Fault
import FieldRules.Decimal.Literal

namespace FieldRules.Json

/-- The rest of a text and the place where it begins. -/
structure Cursor where
  rest : List Char
  place : Place

def Cursor.start (s : String) : Cursor :=
  ⟨s.toList, ⟨1, 0⟩⟩

/-- The place behind the first `k` bytes of `cs`. -/
def Place.skip (p : Place) : Nat → List Char → Place
  | 0, _ => p
  | _ + 1, [] => p
  | k + 1, c :: cs =>
    if c = '\n' then Place.skip ⟨p.line + 1, 0⟩ k cs
    else
      let size := min c.utf8Size (k + 1)
      Place.skip ⟨p.line, p.column + size⟩ (k + 1 - size) cs
termination_by _ cs => cs.length

/-- The place behind a whole list of characters. -/
def Place.skipAll (p : Place) (cs : List Char) : Place :=
  cs.foldl (fun p c => if c = '\n' then ⟨p.line + 1, 0⟩ else ⟨p.line, p.column + c.utf8Size⟩) p

namespace Cursor

variable {α : Type}

/-- The cursor behind the next `n` characters. -/
def drop (s : Cursor) (n : Nat) : Cursor :=
  ⟨s.rest.drop n, s.place.skipAll (s.rest.take n)⟩

/-- A fault at the cursor. -/
def fail (s : Cursor) (cause : Flaw) : Except Fault α :=
  .error (.flaw cause s.place)

/-- A fault about the next byte, placed behind it. -/
def failNext (s : Cursor) (cause : Flaw) : Except Fault α :=
  .error (.flaw cause (s.place.skip 1 s.rest))

/-- The four blanks of the format. -/
def isBlank (c : Char) : Bool :=
  c = ' ' || c = '\n' || c = '\t' || c = '\r'

def skipBlanks (s : Cursor) : Cursor :=
  s.drop (s.rest.takeWhile isBlank).length

/-- The rest of a word whose first letter is read. -/
def word : List Char → Cursor → Except Fault Cursor
  | [], s => .ok s
  | w :: ws, s =>
    match s.rest with
    | [] => s.fail .endInValue
    | c :: _ => if c = w then word ws (s.drop 1) else s.failNext .expectedWord

/-! ## Texts -/

/-- The value of four hexadecimal digits. -/
def fourDigits? : List Char → Option Nat
  | [a, b, c, d] =>
    match Text.hexDigit? a, Text.hexDigit? b, Text.hexDigit? c, Text.hexDigit? d with
    | some a, some b, some c, some d => some (((a * 16 + b) * 16 + c) * 16 + d)
    | _, _, _, _ => none
  | _ => none

/-- Four hexadecimal digits behind `\u`. -/
def hexEscape (s : Cursor) : Except Fault (Nat × Cursor) :=
  match fourDigits? (s.rest.take 4) with
  | some n => .ok (n, s.drop 4)
  | none =>
    if (String.ofList s.rest).utf8ByteSize < 4 then .error (.flaw .endInText (s.place.skipAll s.rest))
    else .error (.flaw .invalidEscape (s.place.skip 4 s.rest))

/-- One character that has to follow the first half of a surrogate pair. -/
def pairMark (c : Char) (s : Cursor) : Except Fault Cursor :=
  match s.rest with
  | [] => s.fail .endInText
  | d :: _ => if d = c then .ok (s.drop 1) else s.failNext .unfinishedSurrogate

/-- The character of an escape behind `\u`; a surrogate needs its partner. -/
def unicodeEscape (s : Cursor) : Except Fault (Char × Cursor) := do
  let (high, s) ← s.hexEscape
  if 0xDC00 ≤ high ∧ high ≤ 0xDFFF then s.fail .loneSurrogate
  else if high < 0xD800 ∨ 0xDBFF < high then .ok (Char.ofNat high, s)
  else
    let s ← s.pairMark '\\'
    let s ← s.pairMark 'u'
    let (low, s) ← s.hexEscape
    if low < 0xDC00 ∨ 0xDFFF < low then s.fail .loneSurrogate
    else .ok (Char.ofNat ((high - 0xD800) * 1024 + (low - 0xDC00) + 0x10000), s)

/-- The escapes of one letter. -/
def shortEscape? (c : Char) : Option Char :=
  if c = '"' ∨ c = '\\' ∨ c = '/' then some c
  else if c = 'b' then some '\x08'
  else if c = 'f' then some '\x0c'
  else if c = 'n' then some '\n'
  else if c = 'r' then some '\r'
  else if c = 't' then some '\t'
  else none

/-- The character of an escape, behind the backslash. -/
def escape (s : Cursor) : Except Fault (Char × Cursor) :=
  match s.rest with
  | [] => s.fail .endInText
  | c :: _ =>
    if c = 'u' then (s.drop 1).unicodeEscape
    else match shortEscape? c with
      | some d => .ok (d, s.drop 1)
      | none => s.failNext .invalidEscape

/-- The characters up to the closing quote, with `seen` the earlier ones from right to left. -/
def textFrom : Nat → List Char → Cursor → Except Fault (String × Cursor)
  | 0, _, s => s.fail .endInText
  | fuel + 1, seen, s =>
    match s.rest with
    | [] => s.fail .endInText
    | c :: _ =>
      if c = '"' then .ok (String.ofList seen.reverse, s.drop 1)
      else if c = '\\' then
        match (s.drop 1).escape with
        | .error e => .error e
        | .ok (d, s) => textFrom fuel (d :: seen) s
      else if c.toNat < 32 then s.failNext .controlCharacter
      else textFrom fuel (c :: seen) (s.drop 1)

/-- A text behind its opening quote. -/
def text (s : Cursor) : Except Fault (String × Cursor) :=
  textFrom (s.rest.length + 1) [] s

/-- Passes over a text whose escapes are not decoded. -/
def skipTextFrom : Nat → Cursor → Except Fault Cursor
  | 0, s => s.fail .endInText
  | fuel + 1, s =>
    match s.rest with
    | [] => s.fail .endInText
    | c :: _ =>
      if c = '"' then .ok (s.drop 1)
      else if c = '\\' then
        let s := s.drop 1
        match s.rest with
        | [] => s.fail .endInText
        | c :: _ =>
          if c = 'u' then
            match (s.drop 1).hexEscape with
            | .error e => .error e
            | .ok (_, s) => skipTextFrom fuel s
          else if (shortEscape? c).isSome then skipTextFrom fuel (s.drop 1)
          else s.failNext .invalidEscape
      else if c.toNat < 32 then s.failNext .controlCharacter
      else skipTextFrom fuel (s.drop 1)

def skipText (s : Cursor) : Except Fault Cursor :=
  skipTextFrom (s.rest.length + 1) s

/-! ## Numbers -/

/-- A run of decimal digits. -/
def digits (s : Cursor) : List Char × Cursor :=
  let run := s.rest.takeWhile Char.isDigit
  (run, s.drop run.length)

/-- The digits in front of the point: at least one, and no leading zero. -/
def wholeDigits (s : Cursor) : Except Fault (List Char × Cursor) :=
  match s.rest with
  | [] => s.fail .endInValue
  | c :: rest =>
    if c = '0' then
      if (rest.head?.map Char.isDigit).getD false then (s.drop 1).failNext .invalidNumber
      else .ok ([c], s.drop 1)
    else if c.isDigit then .ok s.digits
    else s.failNext .invalidNumber

/-- The digits behind the point, when there is one: at least one. -/
def fractionDigits (s : Cursor) : Except Fault (Option (List Char) × Cursor) :=
  match s.rest with
  | '.' :: _ =>
    let s := s.drop 1
    let (run, after) := s.digits
    if run.isEmpty then
      if s.rest.isEmpty then s.fail .endInValue else s.failNext .invalidNumber
    else .ok (some run, after)
  | _ => .ok (none, s)

/-- The greatest power of ten that is told apart from greater ones. -/
def greatestPower : Nat := 2147483647

/-- The number of digits after which a run exceeds the greatest power. -/
def powerOverflow (run : List Char) : Option Nat :=
  (List.range (run.length + 1)).find? fun k => greatestPower < Decimal.digitsValue (run.take k)

/-- The power of ten, when there is one. A power beyond the greatest makes a number other than
zero too great when it is positive, and zero when it is negative. -/
def powerDigits (isZero : Bool) (s : Cursor) : Except Fault (Option Int × Cursor) :=
  match s.rest with
  | c :: _ =>
    if c = 'e' ∨ c = 'E' then
      let s := s.drop 1
      let (neg, s) : Bool × Cursor := match s.rest with
        | '+' :: _ => (false, s.drop 1)
        | '-' :: _ => (true, s.drop 1)
        | _ => (false, s)
      match s.rest with
      | [] => s.fail .endInValue
      | d :: _ =>
        if d.isDigit then
          let (run, after) := s.digits
          match powerOverflow run with
          | some k =>
            if !isZero && !neg then (s.drop k).fail .numberOutOfRange
            else .ok (some (-(greatestPower : Int)), after)
          | none =>
            let e : Int := Decimal.digitsValue run
            .ok (some (if neg then -e else e), after)
        else s.failNext .invalidNumber
    else .ok (none, s)
  | [] => .ok (none, s)

/-- An integer in the range of the two integer kinds; minus zero is not one. -/
def integer? (neg : Bool) (n : Nat) : Option Number :=
  if neg then
    if h : 0 < n ∧ n ≤ twoPow 63 then some (.negative ⟨n - 1, by omega⟩) else none
  else
    if h : n < twoPow 64 then some (.natural ⟨n, h⟩) else none

/-- The nearest number of the binary format, which has to be finite. -/
def real (neg : Bool) (n : Nat) (e : Int) (s : Cursor) : Except Fault (Number × Cursor) :=
  match Binary64.ofDecimal neg n e with
  | some x => .ok (.real x, s)
  | none => s.fail .numberOutOfRange

/-- A number behind its sign. -/
def number (neg : Bool) (s : Cursor) : Except Fault (Number × Cursor) := do
  let (whole, s) ← s.wholeDigits
  let (fraction, s) ← s.fractionDigits
  let coefficient := Decimal.digitsValue (whole ++ fraction.getD [])
  let (power, s) ← s.powerDigits (coefficient == 0)
  match fraction, power with
  | none, none =>
    match integer? neg coefficient with
    | some n => .ok (n, s)
    | none => s.real neg coefficient 0
  | _, _ => s.real neg coefficient (power.getD 0 - (fraction.getD []).length)

/-- Passes over a number without reading its value; its end is looked for, not missed. -/
def skipNumber (s : Cursor) : Except Fault Cursor :=
  let parts : Except Fault Cursor := do
    let (_, s) ← s.wholeDigits
    let (_, s) ← s.fractionDigits
    let (_, s) ← s.powerDigits true
    .ok s
  match parts with
  | .error (.flaw .endInValue place) => .error (.flaw .invalidNumber place)
  | result => result

end Cursor

end FieldRules.Json
