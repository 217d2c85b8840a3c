/-
Patterns over texts and the search for a match. A set of places of a text is a number whose bit `i`
stands for the place in front of character `i`. A pattern is laid over the text once (`Pattern.laidOn`);
`Pattern.reach` then takes the set of places where a match may begin to the set of places where it may
end, and a text matches when a match that begins anywhere ends somewhere.
-/
import FieldRules.Decimal.Power
import FieldRules.Pattern.Class

namespace FieldRules

/-- Conditions on a place that look at the characters around it. -/
inductive Look where
  | textStart
  | textEnd
  | lineStart
  | lineEnd
  | lineStartCrlf
  | lineEndCrlf
  | wordBoundary
  | noWordBoundary
  | wordStart
  | wordEnd
  | noWordBefore
  | noWordAfter
deriving DecidableEq

/-- A pattern. -/
inductive Pattern where
  | empty
  | char (cls : CharClass)
  /-- A condition, where `word` are the characters of words. -/
  | look (kind : Look) (word : CharClass)
  | seq (a b : Pattern)
  | alt (a b : Pattern)
  /-- At least `min` times, and at most `max` times when there is a bound. -/
  | times (a : Pattern) (min : Nat) (max : Option Nat)
  /-- A part whose places in a match are kept. -/
  | capture (a : Pattern)

/-! ## Sets of places -/

namespace Places

/-- The set of the places marked in a list. -/
def ofMarks : List Bool → Nat
  | [] => 0
  | b :: rest => 2 * ofMarks rest + b.toNat

/-- The set after `k` steps. -/
def steps (step : Nat → Nat) : Nat → Nat → Nat
  | 0, s => s
  | k + 1, s => if s = 0 then 0 else steps step k (step s)

/-- The union of the sets after at most `k` steps. -/
def upTo (step : Nat → Nat) : Nat → Nat → Nat
  | 0, s => s
  | k + 1, s => if s = 0 then 0 else s ||| upTo step k (step s)

/-- The union of the sets after any number of steps, when `k` rounds reach all of it. -/
def closure (step : Nat → Nat) : Nat → Nat → Nat
  | 0, s => s
  | k + 1, s =>
    let s' := s ||| step s
    if s' = s then s else closure step k s'

end Places

namespace Look

/-- Whether the condition holds between two neighbours; a missing one is an end of the text. -/
def holds (word : CharClass) (before after : Option Char) : Look → Bool
  | textStart => before.isNone
  | textEnd => after.isNone
  | lineStart => before.isNone || before == some '\n'
  | lineEnd => after.isNone || after == some '\n'
  | lineStartCrlf =>
    before.isNone || before == some '\n' || (before == some '\r' && after != some '\n')
  | lineEndCrlf =>
    after.isNone || after == some '\r' || (after == some '\n' && before != some '\r')
  | wordBoundary => inWord before != inWord after
  | noWordBoundary => inWord before == inWord after
  | wordStart => !inWord before && inWord after
  | wordEnd => inWord before && !inWord after
  | noWordBefore => !inWord before
  | noWordAfter => !inWord after
where
  inWord (c : Option Char) : Bool := (c.map fun c => word.contains c.toNat).getD false

/-- The marks of the places of a text, given the character in front of it. -/
def marks (kind : Look) (word : CharClass) : Option Char → List Char → List Bool
  | before, [] => [kind.holds word before none]
  | before, c :: cs => kind.holds word before (some c) :: marks kind word (some c) cs

end Look

/-! ## Search -/

/-- A pattern laid over one text: each condition on a character or a place has become the set of the
places where it holds. -/
inductive Overlay where
  | empty
  | char (places : Nat)
  | look (places : Nat)
  | seq (a b : Overlay)
  | alt (a b : Overlay)
  | times (a : Overlay) (min : Nat) (max : Option Nat)

/-- The places where a match can end that begins at one of the places `s`, of `all` places. -/
def Overlay.reach (all : Nat) : Overlay → Nat → Nat
  | empty, s => s
  | char holds, s => (s &&& holds) <<< 1
  | look holds, s => s &&& holds
  | seq a b, s => b.reach all (a.reach all s)
  | alt a b, s => a.reach all s ||| b.reach all s
  | times a low high, s =>
    let s := Places.steps (a.reach all) (min low all) s
    match high with
    | none => Places.closure (a.reach all) all s
    | some high => Places.upTo (a.reach all) (min (high - low) all) s

namespace Pattern

/-- Every set of places is found once, however often the search comes back to it. -/
def laidOn (text : List Char) : Pattern → Overlay
  | empty => .empty
  | char cls => .char (Places.ofMarks (text.map fun c => cls.contains c.toNat))
  | look kind word => .look (Places.ofMarks (kind.marks word none text))
  | seq a b => .seq (a.laidOn text) (b.laidOn text)
  | alt a b => .alt (a.laidOn text) (b.laidOn text)
  | times a low high => .times (a.laidOn text) low high
  | capture a => a.laidOn text

/-- The places of `text` where a match can end that begins at one of the places `s`. -/
def reach (text : List Char) (p : Pattern) (s : Nat) : Nat :=
  (p.laidOn text).reach (text.length + 1) s

/-- Whether some part of the text matches. -/
def isMatch (p : Pattern) (text : String) : Bool :=
  let cs := text.toList
  p.reach cs (twoPow (cs.length + 1) - 1) != 0

section
variable (text : List Char) (s : Nat)

theorem reach_empty : reach text empty s = s := rfl

theorem reach_char (cls : CharClass) : reach text (char cls) s =
    (s &&& Places.ofMarks (text.map fun c => cls.contains c.toNat)) <<< 1 := rfl

theorem reach_look (kind : Look) (word : CharClass) : reach text (look kind word) s =
    s &&& Places.ofMarks (kind.marks word none text) := rfl

end

/-! ## Building patterns -/

def seqAll : List Pattern → Pattern
  | [] => empty
  | [p] => p
  | p :: rest => seq p (seqAll rest)

def altAll : List Pattern → Pattern
  | [] => empty
  | [p] => p
  | p :: rest => alt p (altAll rest)

end Pattern

end FieldRules
