/-
Hiding secrets. In a record everything under a sensitive key is replaced; in other texts a marker
word, separators and a value of three characters or more are replaced by the marker word and a mask.
-/
import FieldRules.Json.Basic
import FieldRules.Text.Blank
import FieldRules.Text.Casing

namespace FieldRules.Redaction

/-! ## Keys -/

/-- The words that make a key sensitive, wherever they stand in it. -/
def keyMarkers : List String :=
  ["password", "passwd", "secret", "token", "apikey", "api_key", "credential", "ssn", "card"]

def isSensitiveKey (key : String) : Bool :=
  let lower := (Text.lowercase key).toList
  keyMarkers.any fun m => Text.occursIn m.toList lower

/-! ## Texts -/

/-- What stands in place of a secret. -/
def mask : List Char := ['*', '*', '*']

/-- Whether `c` is the lower-case letter `p` in some case; two letters have a third form. -/
def isLetter (p c : Char) : Bool :=
  c = p || c = p.toUpper || (p = 'k' && c = '\u212a') || (p = 's' && c = '\u017f')

/-- The number of characters of `word` at the beginning, in any case; `-` in a word stands for a hyphen, an
underscore or nothing. -/
def wordSize? : List Char → List Char → Option Nat
  | [], _ => some 0
  | '-' :: word, cs =>
    match cs with
    | [] => wordSize? word []
    | c :: rest => if c = '_' ∨ c = '-' then (wordSize? word rest).map (· + 1) else wordSize? word (c :: rest)
  | _ :: _, [] => none
  | p :: word, c :: rest => if isLetter p c then (wordSize? word rest).map (· + 1) else none

/-- The words that announce a secret in a text. -/
def textMarkers : List (List Char) :=
  ["api-key", "token", "bearer", "password", "passwd", "pwd", "secret"].map String.toList

def isSeparator (c : Char) : Bool :=
  c = '=' || c = ':' || Text.isBlank c

def isQuote (c : Char) : Bool :=
  c = '\'' || c = '"'

def isSecretChar (c : Char) : Bool :=
  !Text.isBlank c && !isQuote c

/-- The number of characters of a secret with the quotes around it, which need not match. -/
def valueSize? (cs : List Char) : Option Nat :=
  let opening := if (cs.head?.map isQuote).getD false then 1 else 0
  let body := cs.drop opening
  let size := (body.takeWhile isSecretChar).length
  if size < 3 then none
  else
    let closing := if ((body.drop size).head?.map isQuote).getD false then 1 else 0
    some (opening + size + closing)

/-- The number of characters of separators and a secret, with at most `count` separators and as many of
them as possible. -/
def assignmentSize? (cs : List Char) : Nat → Option Nat
  | 0 => none
  | count + 1 =>
    match valueSize? (cs.drop (count + 1)) with
    | some size => some (count + 1 + size)
    | none => assignmentSize? cs count

/-- The size of the marker word at the beginning and of the whole assignment, when there is one. -/
def secret? (cs : List Char) : Option (Nat × Nat) :=
  match textMarkers.findSome? fun word => wordSize? word cs with
  | none => none
  | some marker =>
    let rest := cs.drop marker
    (assignmentSize? rest (rest.takeWhile isSeparator).length).map fun size => (marker, marker + size)

/-- The text with its secrets masked, from behind the next `skip` characters on. -/
def maskFrom : Nat → List Char → List Char
  | _, [] => []
  | skip + 1, _ :: cs => maskFrom skip cs
  | 0, c :: cs =>
    match secret? (c :: cs) with
    | some (marker, size) => (c :: cs).take marker ++ '=' :: mask ++ maskFrom (size - 1) cs
    | none => c :: maskFrom 0 cs

/-- A text with its secrets masked. -/
def redactText (s : String) : String :=
  String.ofList (maskFrom 0 s.toList)

/-! ## Values -/

mutual

/-- A value with its secrets masked: what is under sensitive keys as a whole, other texts in part. -/
def redact : Json → Json
  | .text s => .text (redactText s)
  | .list items => .list (redactItems items)
  | .object members => .object (redactMembers members)
  | v => v

def redactItems : List Json → List Json
  | [] => []
  | v :: rest => redact v :: redactItems rest

def redactMembers : List (String × Json) → List (String × Json)
  | [] => []
  | (k, v) :: rest => (k, if isSensitiveKey k then .text (String.ofList mask) else redact v) :: redactMembers rest

end

end FieldRules.Redaction
