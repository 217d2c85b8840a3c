/-
The parsed form of a pattern, each part with its place in the text. Names of properties and flags are
as written; what they mean is decided when the pattern is built.
-/
import FieldRules.Pattern.Fault

namespace FieldRules.Pattern

inductive Flag where
  | ignoreCase
  | multiLine
  | dotAll
  | swapGreed
  | unicode
  | crlf
  | ignoreBlanks
deriving DecidableEq

/-- The flags of a group as written, negation included. -/
inductive FlagItem where
  | negation
  | flag (f : Flag)
deriving DecidableEq

/-- What the items say of a flag. -/
def flagState (f : Flag) : List FlagItem → Bool → Option Bool
  | [], _ => none
  | .negation :: rest, _ => flagState f rest false
  | .flag g :: rest, on => if g = f then some on else flagState f rest on

/-- Assertions; what `^` and `$` mean depends on flags. -/
inductive Anchor where
  | lineStart
  | lineEnd
  | textStart
  | textEnd
  | wordBoundary
  | noWordBoundary
  | wordStart
  | wordEnd
  | wordStartHalf
  | wordEndHalf
deriving DecidableEq

/-- Classes of one letter. -/
inductive Shorthand where
  | digit
  | blank
  | word
deriving DecidableEq

/-- A property of characters by name, or by name and value. -/
inductive PropertyName where
  | named (name : String)
  | valued (name value : String)

/-- A literal character; `byte` when it is written with two hexadecimal digits. -/
structure Literal where
  span : Span
  char : Char
  byte : Bool

inductive SetOperator where
  | both
  | minus
  | differ

/-- What stands between the brackets of a class. -/
inductive SetNode where
  | literal (l : Literal)
  | range (first last : Literal)
  | ascii (span : Span) (name : String) (negated : Bool)
  | shorthand (span : Span) (kind : Shorthand) (negated : Bool)
  | property (span : Span) (name : PropertyName) (negated : Bool)
  | nested (span : Span) (negated : Bool) (body : SetNode)
  | union (items : List SetNode)
  | operator (op : SetOperator) (a b : SetNode)

/-- A part of a pattern. -/
inductive Node where
  | empty
  | flags (items : List FlagItem)
  | literal (l : Literal)
  | dot (span : Span)
  | anchor (kind : Anchor)
  | shorthand (span : Span) (kind : Shorthand) (negated : Bool)
  | property (span : Span) (name : PropertyName) (negated : Bool)
  | set (span : Span) (negated : Bool) (body : SetNode)
  | times (span : Span) (min : Nat) (max : Option Nat) (body : Node)
  | group (span : Span) (captures : Bool) (flags : List FlagItem) (body : Node)
  | alt (span : Span) (branches : List Node)
  | seq (span : Span) (parts : List Node)

end FieldRules.Pattern
