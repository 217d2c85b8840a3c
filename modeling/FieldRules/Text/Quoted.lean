/-
Texts in double quotes with everything unprintable escaped, as error messages show them.
-/
import FieldRules.Text.Property

namespace FieldRules.Text

open Category in
/-- The categories whose characters have no glyph of their own. -/
def unprintableRanges : List CodeRanges :=
  [control, format, privateUse, unassigned, lineSeparator, paragraphSeparator, spaceSeparator].map
    CodeClass.ranges

def graphemeExtendRanges : CodeRanges := Property.graphemeExtend.ranges

/-- A character that is shown as it is: it has a glyph and does not combine with what precedes it. -/
def isPrintable (c : Char) : Bool :=
  let n := c.toNat
  if n < 128 then 32 ≤ n && n < 127
  else !graphemeExtendRanges.contains n && !unprintableRanges.any (·.contains n)

/-- A character as it stands between the quotes. -/
def quotedChar (c : Char) : List Char :=
  if c = '"' then ['\\', '"']
  else if c = '\\' then ['\\', '\\']
  else if c = '\t' then ['\\', 't']
  else if c = '\n' then ['\\', 'n']
  else if c = '\r' then ['\\', 'r']
  else if c = '\x00' then ['\\', '0']
  else if isPrintable c then [c]
  else ['\\', 'u', '\x7b'] ++ Nat.toDigits 16 c.toNat ++ ['\x7d']

def quoted (s : String) : String :=
  String.ofList ('"' :: s.toList.flatMap quotedChar ++ ['"'])

end FieldRules.Text
