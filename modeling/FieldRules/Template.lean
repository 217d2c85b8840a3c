/-
Messages with placeholders. The name of the field replaces every field placeholder first, and then
the text of the candidate every value placeholder, those inside the name included; the candidate's
text is not searched again. A message without a pair of braces is left alone, and the candidate is
written only where it is asked for.
-/
import FieldRules.Candidate
import FieldRules.Json.Writer

namespace FieldRules.Template

/-- The start of every placeholder. -/
def braces : List Char := ['\x7b', '\x7b']

def fieldMark : List Char := ['\x7b', '\x7b', 'f', 'i', 'e', 'l', 'd', '\x7d', '\x7d']

def valueMark : List Char := ['\x7b', '\x7b', 'v', 'a', 'l', 'u', 'e', '\x7d', '\x7d']

/-- A candidate in a message: texts as they are, nothing as `undefined`, all else as compact JSON. -/
def display : Candidate → String
  | none => "undefined"
  | some (.text s) => s
  | some v => v.compact

/-- The message for a field and its candidate. -/
def render (message field : String) (candidate : Candidate) : String :=
  if !Text.occursIn braces message.toList then message
  else
    let named := Text.replaceAll fieldMark field.toList message.toList
    String.ofList <|
      if Text.occursIn valueMark named then Text.replaceAll valueMark (display candidate).toList named
      else named

end FieldRules.Template
