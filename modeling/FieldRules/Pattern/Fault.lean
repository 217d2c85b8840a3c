/-
What can be wrong with the text of a pattern, where, and how it is shown: the text with carets under
the faulty part, line by line when the pattern has several lines.
-/
import FieldRules.Text.Find

namespace FieldRules.Pattern

/-- A place in the text of a pattern: line and column, both from one. -/
structure Point where
  line : Nat
  column : Nat
deriving DecidableEq

/-- A part of the text of a pattern. -/
structure Span where
  first : Point
  last : Point
deriving DecidableEq

/-- The mistake in a pattern. -/
inductive Flaw where
  | classEscape
  | classRange
  | classRangeLiteral
  | classUnclosed
  | decimalEmpty
  | decimalInvalid
  | hexEmpty
  | hexInvalid
  | hexDigit
  | escapeEnd
  | escapeUnknown
  | flagDangling
  | flagDuplicate (earlier : Span)
  | flagRepeatedNegation (earlier : Span)
  | flagEnd
  | flagUnknown
  | nameDuplicate (earlier : Span)
  | nameEmpty
  | nameInvalid
  | nameEnd
  | groupUnclosed
  | groupUnopened
  | tooDeep
  | repeatRange
  | repeatDecimal
  | repeatUnclosed
  | repeatMissing
  | boundaryUnclosed
  | boundaryUnknown
  | boundaryEnd
  | propertyInvalid
  | backreference
  | lookAround
  | notUnicode
  | invalidBytes
  | unknownProperty
  | unknownPropertyValue
deriving DecidableEq

namespace Flaw

def message : Flaw → String
  | classEscape => "invalid escape sequence found in character class"
  | classRange => "invalid character class range, the start must be <= the end"
  | classRangeLiteral => "invalid range boundary, must be a literal"
  | classUnclosed => "unclosed character class"
  | decimalEmpty => "decimal literal empty"
  | decimalInvalid => "decimal literal invalid"
  | hexEmpty => "hexadecimal literal empty"
  | hexInvalid => "hexadecimal literal is not a Unicode scalar value"
  | hexDigit => "invalid hexadecimal digit"
  | escapeEnd => "incomplete escape sequence, reached end of pattern prematurely"
  | escapeUnknown => "unrecognized escape sequence"
  | flagDangling => "dangling flag negation operator"
  | flagDuplicate _ => "duplicate flag"
  | flagRepeatedNegation _ => "flag negation operator repeated"
  | flagEnd => "expected flag but got end of regex"
  | flagUnknown => "unrecognized flag"
  | nameDuplicate _ => "duplicate capture group name"
  | nameEmpty => "empty capture group name"
  | nameInvalid => "invalid capture group character"
  | nameEnd => "unclosed capture group name"
  | groupUnclosed => "unclosed group"
  | groupUnopened => "unopened group"
  | tooDeep => "exceed the maximum number of nested parentheses/brackets (250)"
  | repeatRange => "invalid repetition count range, the start must be <= the end"
  | repeatDecimal => "repetition quantifier expects a valid decimal"
  | repeatUnclosed => "unclosed counted repetition"
  | repeatMissing => "repetition operator missing expression"
  | boundaryUnclosed =>
    "special word boundary assertion is either unclosed or contains an invalid character"
  | boundaryUnknown =>
    "unrecognized special word boundary assertion, valid choices are: start, end, start-half or end-half"
  | boundaryEnd =>
    "found either the beginning of a special word boundary or a bounded repetition on a \\b with an " ++
      "opening brace, but no closing brace"
  | propertyInvalid => "invalid Unicode character class"
  | backreference => "backreferences are not supported"
  | lookAround => "look-around, including look-ahead and look-behind, is not supported"
  | notUnicode => "Unicode not allowed here"
  | invalidBytes => "pattern can match invalid UTF-8"
  | unknownProperty => "Unicode property not found"
  | unknownPropertyValue => "Unicode property value not found"

/-- An earlier part of the pattern that the mistake refers to. -/
def earlier? : Flaw → Option Span
  | flagDuplicate s | flagRepeatedNegation s | nameDuplicate s => some s
  | _ => none

end Flaw

/-- Why a pattern is refused. -/
inductive Fault where
  | flaw (cause : Flaw) (span : Span)
  /-- The pattern is well-formed and too large. -/
  | tooLarge
deriving DecidableEq

/-! ## Messages -/

/-- The lines of a pattern; a carriage return in front of a line break belongs to the break. -/
def lines (pattern : String) : List (List Char) :=
  let pieces := Text.splitAt '\n' pattern.toList
  let complete := pieces.dropLast.map fun l => if l.getLast? = some '\r' then l.dropLast else l
  match pieces.getLast? with
  | some [] | none => complete
  | some l => complete ++ [l]

def Span.onOneLine (s : Span) : Bool :=
  s.first.line == s.last.line

def Span.before (a b : Span) : Bool :=
  a.first.line < b.first.line || (a.first.line == b.first.line && a.first.column ≤ b.first.column)

/-- Carets under spans of one line that are in order, from column `at` on. -/
def carets : Nat → List Span → List Char
  | _, [] => []
  | column, s :: rest =>
    let blanks := s.first.column - column
    let marks := max 1 (s.last.column - s.first.column)
    List.replicate blanks ' ' ++ List.replicate marks '^' ++ carets (column + blanks + marks) rest

/-- The lines with their numbers, and carets under those that hold spans. -/
def annotated (width : Nat) (spans : List Span) : Nat → List (List Char) → List (List Char)
  | _, [] => []
  | n, line :: rest =>
    let number := Nat.toDigits 10 n
    let margin := if width = 0 then List.replicate 4 ' '
      else List.replicate (width - number.length) ' ' ++ number ++ [':', ' ']
    let here := spans.filter fun s => s.onOneLine && s.first.line == n
    let notes := if here.isEmpty then []
      else [List.replicate (if width = 0 then 4 else 2 + width) ' ' ++ carets 1 here]
    (margin ++ line) :: notes ++ annotated width spans (n + 1) rest

/-- A span that covers several lines, in words. -/
def Span.words (s : Span) : List Char :=
  ("on line " ++ toString s.first.line ++ " (column " ++ toString s.first.column ++ ") through line " ++
    toString s.last.line ++ " (column " ++ toString (s.last.column - 1) ++ ")").toList

def Fault.message (pattern : String) : Fault → String
  | tooLarge => "Compiled regex exceeds size limit of 10485760 bytes."
  | flaw cause span =>
    let spans := match cause.earlier? with
      | some s => if s.before span then [s, span] else [span, s]
      | none => [span]
    let several := pattern.toList.contains '\n'
    let ls := lines pattern
    let count := ls.length + if pattern.toList.getLast? = some '\n' then 1 else 0
    let width := if count ≤ 1 then 0 else (Nat.toDigits 10 count).length
    let body := annotated width spans 1 ls
    let divider := List.replicate 79 '~'
    let wide := (spans.filter fun s => !s.onOneLine).map Span.words
    let reason := ("error: " ++ cause.message).toList
    let all := if several then "regex parse error:".toList :: divider :: body ++ divider :: wide ++ [reason]
      else "regex parse error:".toList :: body ++ [reason]
    Text.join "\n" (all.map String.ofList)

end FieldRules.Pattern
