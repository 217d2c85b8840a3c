/-
What can be wrong with a JSON text or with the shape of a JSON value. A `Flaw` is a mistake in the
text, a `Misfit` a well-formed value of the wrong shape; a fault found while reading a text also
says where reading stopped, as a line and a count of bytes in that line.
-/
import FieldRules.Json.Writer
import FieldRules.Text.Quoted

namespace FieldRules.Json

/-- A mistake in a JSON text. -/
inductive Flaw where
  | endInValue
  | endInList
  | endInObject
  | endInText
  | expectedColon
  | expectedCommaOrBracket
  | expectedCommaOrBrace
  | expectedWord
  | expectedValue
  | invalidEscape
  | invalidNumber
  | numberOutOfRange
  | controlCharacter
  | keyNotText
  | loneSurrogate
  | unfinishedSurrogate
  | trailingComma
  | trailingCharacters
  | tooDeep
deriving DecidableEq

def Flaw.message : Flaw → String
  | endInValue => "EOF while parsing a value"
  | endInList => "EOF while parsing a list"
  | endInObject => "EOF while parsing an object"
  | endInText => "EOF while parsing a string"
  | expectedColon => "expected `:`"
  | expectedCommaOrBracket => "expected `,` or `]`"
  | expectedCommaOrBrace => "expected `,` or `\x7d`"
  | expectedWord => "expected ident"
  | expectedValue => "expected value"
  | invalidEscape => "invalid escape"
  | invalidNumber => "invalid number"
  | numberOutOfRange => "number out of range"
  | controlCharacter => "control character (\\u0000-\\u001F) found while parsing a string"
  | keyNotText => "key must be a string"
  | loneSurrogate => "lone leading surrogate in hex escape"
  | unfinishedSurrogate => "unexpected end of hex escape"
  | trailingComma => "trailing comma"
  | trailingCharacters => "trailing characters"
  | tooDeep => "recursion limit exceeded"

/-- What a value is, for a message. -/
inductive Found where
  | null
  | bool (b : Bool)
  | number (n : Number)
  | text (s : String)
  | list
  | object
deriving DecidableEq

def Found.ofJson : Json → Found
  | .null => null
  | .bool b => bool b
  | .number n => number n
  | .text s => text s
  | .list _ => list
  | .object _ => object

def Found.message : Found → String
  | null => "null"
  | bool b => "boolean `" ++ String.ofList (boolChars b) ++ "`"
  | number (.real x) => "floating point `" ++ String.ofList (numberLayout.write x) ++ "`"
  | number n => "integer `" ++ String.ofList n.chars ++ "`"
  | text s => "string " ++ Text.quoted s
  | list => "sequence"
  | object => "map"

/-- A value that does not have the shape asked for. -/
inductive Misfit where
  | wrongType (found : Found) (expected : String)
  | wrongValue (found : Found) (expected : String)
  | wrongLength (length : Nat) (expected : String)
  | unknownField (name : String) (known : List String)
  | unknownVariant (name : String) (known : List String)
  | missingField (name : String)
  | duplicateField (name : String)
deriving DecidableEq

/-- The names that would have been right. -/
def oneOf (what : String) : List String → String
  | [] => "there are no " ++ what
  | [a] => "expected `" ++ a ++ "`"
  | [a, b] => "expected `" ++ a ++ "` or `" ++ b ++ "`"
  | names => "expected one of " ++ Text.join ", " (names.map fun n => "`" ++ n ++ "`")

def Misfit.message : Misfit → String
  | wrongType found expected => "invalid type: " ++ found.message ++ ", expected " ++ expected
  | wrongValue found expected => "invalid value: " ++ found.message ++ ", expected " ++ expected
  | wrongLength length expected => "invalid length " ++ toString length ++ ", expected " ++ expected
  | unknownField name known => "unknown field `" ++ name ++ "`, " ++ oneOf "fields" known
  | unknownVariant name known => "unknown variant `" ++ name ++ "`, " ++ oneOf "variants" known
  | missingField name => "missing field `" ++ name ++ "`"
  | duplicateField name => "duplicate field `" ++ name ++ "`"

/-- A place in a text: the line from one and the bytes in front of it in that line. -/
structure Place where
  line : Nat
  column : Nat
deriving DecidableEq

/-- What went wrong while reading a text. -/
inductive Fault where
  | flaw (cause : Flaw) (place : Place)
  | misfit (cause : Misfit) (place : Place)
deriving DecidableEq

def Place.message (p : Place) : String :=
  " at line " ++ toString p.line ++ " column " ++ toString p.column

def Fault.message : Fault → String
  | flaw cause place => cause.message ++ place.message
  | misfit cause place => cause.message ++ place.message

end FieldRules.Json
