/-
E-mail addresses. The local part is a sequence of words joined by points, or a quoted text; the
domain is an address of four numbers in brackets, or labels that end in a name of two letters or
more.
-/
import FieldRules.Pattern.Basic

namespace FieldRules.Email

open Pattern

def charPattern (c : Char) : Pattern := char (.single c)

def oneOrMore (p : Pattern) : Pattern := times p 1 none

/-- The characters of a word: no blanks, and none of the marks that structure an address. -/
def wordChar : CharClass :=
  .outside (.union [.ofChars ['<', '>', '(', ')', '[', ']', '\\', '.', ',', ';', ':', '@', '"'], .blank])

/-- Words joined by points, or any characters of one line between quotes. -/
def localPart : Pattern :=
  let word := oneOrMore (char wordChar)
  alt (seq word (times (seq (charPattern '.') word) 0 none))
    (seqAll [charPattern '"', oneOrMore (char (.outside (.single '\n'))), charPattern '"'])

def domainLetter : CharClass := .union [.asciiLower, .asciiUpper]

/-- Four numbers in brackets, or labels that end in a name. -/
def domain : Pattern :=
  let number := times (char .asciiDigit) 1 (some 3)
  let point := charPattern '.'
  let label := oneOrMore (char (.union [domainLetter, .single '-', .asciiDigit]))
  alt (seqAll [charPattern '[', number, point, number, point, number, point, number, charPattern ']'])
    (seq (oneOrMore (seq label point)) (times (char domainLetter) 2 none))

/-- A whole text that is an address. -/
def address : Pattern :=
  seqAll [look .textStart (.union []), localPart, charPattern '@', domain, look .textEnd (.union [])]

def isAddress (s : String) : Bool :=
  address.isMatch s

end FieldRules.Email
