/-
The level of the log is a list of filters separated by commas. A filter is a level, or the name of a part
of the program with an optional span in brackets and an optional level behind an equals sign. Only what
makes a filter malformed is modelled here.
-/
import FieldRules.Text.Blank
import FieldRules.Text.Find
import FieldRules.Text.Property

namespace FieldRules.LogFilter

/-- Why a filter cannot be used. -/
inductive Fault where
  | malformed
  | unknownLevel
deriving DecidableEq

def Fault.message : Fault → String
  | malformed => "invalid filter directive"
  | unknownLevel =>
    "error parsing level filter: expected one of \"off\", \"error\", \"warn\", \"info\", \"debug\", " ++
      "\"trace\", or a number 0-5"

/-- Whether a text names a level, by a word in any case or by a number. -/
def isLevel (cs : List Char) : Bool :=
  let word := String.ofList (cs.map Char.toLower)
  ["", "off", "error", "warn", "info", "debug", "trace"].contains word ||
    (let digits := if cs.head? = some '+' then cs.drop 1 else cs
     !digits.isEmpty && digits.all Char.isDigit && (digits.dropWhile (· = '0')).length ≤ 1 &&
       digits.getLast?.all fun d => d.toNat ≤ '5'.toNat)

open Text in
/-- The letters and numbers of all scripts. -/
def alphanumericRanges : List CodeRanges :=
  [Property.alphabetic.ranges, Category.decimalNumber.ranges, Category.letterNumber.ranges,
    Category.otherNumber.ranges]

/-- A character that a name may begin with. -/
def beginsName (c : Char) : Bool :=
  c = '-' || c = ':' || c = '_' || alphanumericRanges.any fun r => r.contains c.toNat

/-- How far a filter is read. -/
inductive Stage where
  | start
  | name
  | span
  /-- A field of a span; the flag tells whether anything is written yet. -/
  | field (begun : Bool)
  | fields
  | named
  /-- The level begins behind so many characters. -/
  | level (position : Nat)

/-- The stage behind one more character, the one at `position`. -/
def Stage.next (position : Nat) (c : Char) : Stage → Except Fault Stage
  | start => if c = '[' then .ok span else if beginsName c then .ok name else .error .malformed
  | name => .ok (if c = '=' then level (position + 1) else if c = '[' then span else name)
  | span => .ok (if c = ']' then named else if c = '\x7b' then field false else span)
  | field begun => if c ≠ '\x7d' then .ok (field true) else if begun then .ok fields else .error .malformed
  | fields => if c = ']' then .ok named else .error .malformed
  | named => if c = '=' then .ok (level (position + 1)) else .error .malformed
  | level p => .ok (level p)

def Stage.run : Nat → List Char → Stage → Except Fault Stage
  | _, [], s => .ok s
  | position, c :: cs, s => do run (position + 1) cs (← s.next position c)

/-- Checks one filter. Blanks around it are passed over, but positions count from its beginning without
them, and the level is what the whole text holds from there on. -/
def checkOne (cs : List Char) : Except Fault Unit := do
  match ← Stage.start.run 0 (Text.trim cs) with
  | .name | .named => .ok ()
  | .level p => if isLevel (cs.drop p) then .ok () else .error .unknownLevel
  | _ => .error .malformed

/-- The fault of the first malformed filter. -/
def check (s : String) : Except Fault Unit :=
  ((Text.splitAt ',' s.toList).filter fun p => !p.isEmpty).forM checkOne

end FieldRules.LogFilter
