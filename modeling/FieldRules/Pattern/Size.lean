/-
The size of a pattern: the bytes of the automata that read a text against it, one from its beginning and one from
its end. A state takes 32 bytes, 8 more for each range of bytes that it goes on by and 4 more for each state that it
chooses from. Characters are read in UTF-8: one character in a state for each byte, and a class beyond ASCII by what
its byte sequences have in common. Forward these are the continuations, so states with the same continuations are
one; backward they are the beginnings.
-/
import FieldRules.Pattern.Basic

namespace FieldRules

/-! ## Ranges of a class -/

namespace CharClass

mutual

/-- The code points at which membership may change; changes that come from case alone are left out. -/
def edges : CharClass → List Nat
  | range first last => [first, last + 1]
  | table t => t.ranges.toList.flatMap fun r => [r.1, r.2 + 1]
  | union parts => edgesOfAll parts
  | both a b | minus a b | differ a b => a.edges ++ b.edges
  | outside a | anyCase a | anyAsciiCase a => a.edges

def edgesOfAll : List CharClass → List Nat
  | [] => []
  | a :: rest => a.edges ++ edgesOfAll rest

end

/-- The ranges between sorted edges that are inside; neighbours are joined. -/
def rangesBetween (inside : Nat → Bool) : List Nat → List (Nat × Nat)
  | a :: b :: rest =>
    let later := rangesBetween inside (b :: rest)
    if a = b || !inside a then later
    else match later with
      | (first, last) :: more => if first = b then (a, last) :: more else (a, b - 1) :: later
      | [] => [(a, b - 1)]
  | _ => []

/-- The ranges of a class. -/
def toRanges (cls : CharClass) : List (Nat × Nat) :=
  rangesBetween cls.contains ((0 :: 0x110000 :: cls.edges).mergeSort)

end CharClass

/-! ## Byte sequences -/

namespace Utf8

/-- Ranges of bytes, one for each byte of a character. -/
abbrev Sequence := List (Nat × Nat)

/-- The sequences of the characters from `a` to `b`, all with `k` bytes behind the first one. Bytes are written
without the bits that mark them. -/
def sequencesOfWidth : Nat → Nat → Nat → List Sequence
  | 0, a, b => [[(a, b)]]
  | k + 1, a, b =>
    let unit := Nat.pow 64 (k + 1)
    let first := a / unit
    let last := b / unit
    if first = last then (sequencesOfWidth k (a % unit) (b % unit)).map ((first, first) :: ·)
    else
      let headIsWhole := a % unit = 0
      let tailIsWhole := b % unit = unit - 1
      let head := if headIsWhole then []
        else (sequencesOfWidth k (a % unit) (unit - 1)).map ((first, first) :: ·)
      let tail := if tailIsWhole then [] else (sequencesOfWidth k 0 (b % unit)).map ((last, last) :: ·)
      let low := if headIsWhole then first else first + 1
      let high := if tailIsWhole then last else last - 1
      let middle := if low ≤ high then [(low, high) :: List.replicate (k + 1) (0, 63)] else []
      head ++ middle ++ tail

/-- The spans of characters whose sequences are of one length; surrogates are no characters. -/
def spans : List (Nat × Nat × Nat) :=
  [(0, 0, 0x7F), (1, 0x80, 0x7FF), (2, 0x800, 0xD7FF), (2, 0xE000, 0xFFFF), (3, 0x10000, 0x10FFFF)]

/-- The mark of a byte with `k` bytes behind it. -/
def leadMark : Nat → Nat
  | 0 => 0
  | 1 => 0xC0
  | 2 => 0xE0
  | _ => 0xF0

/-- A sequence with the bits that mark its bytes. -/
def marked (k : Nat) : Sequence → Sequence
  | [] => []
  | r :: rest => (r.1 + leadMark k, r.2 + leadMark k) :: rest.map fun r => (r.1 + 0x80, r.2 + 0x80)

/-- The sequences for a range of code points. -/
def sequences (r : Nat × Nat) : List Sequence :=
  spans.flatMap fun (k, low, high) =>
    let a := max r.1 low
    let b := min r.2 high
    if a ≤ b then (sequencesOfWidth k a b).map (marked k) else []

/-- The number of bytes of a character. -/
def width (n : Nat) : Nat :=
  if n < 0x80 then 1 else if n < 0x800 then 2 else if n < 0x10000 then 3 else 4

/-- How many members two sequences have in common at their beginning. -/
def shared : Sequence → Sequence → Nat
  | a :: as, b :: bs => if a = b then shared as bs + 1 else 0
  | _, _ => 0

/-- The number of different beginnings of sorted sequences. -/
def beginnings : Sequence → List Sequence → Nat
  | _, [] => 0
  | before, s :: rest => s.length - shared before s + beginnings s rest

/-- The first ranges of sorted sequences, each with the sequences behind it. -/
def branches : List Sequence → List ((Nat × Nat) × List Sequence)
  | [] => []
  | [] :: rest => branches rest
  | (r :: tail) :: rest =>
    match branches rest with
    | (r', tails) :: more => if r = r' then (r, tail :: tails) :: more else (r, [tail]) :: (r', tails) :: more
    | [] => [(r, [tail])]

/-- What is left to read before each of `depth` bytes, once for every way there. -/
def continuations : Nat → List Sequence → List (List Sequence)
  | 0, _ => []
  | depth + 1, seqs =>
    let parts := branches seqs
    if parts.isEmpty then [] else seqs :: parts.flatMap fun part => continuations depth part.2

end Utf8

/-! ## Sizes -/

/-- The end of a text at which an automaton begins to read. -/
inductive Direction where
  | forward
  | backward
deriving DecidableEq

/-- The bytes of a state. -/
def stateSize : Nat := 32

/-- The bytes of a range to go on by. -/
def rangeSize : Nat := 8

/-- The bytes of a state to choose from. -/
def choiceSize : Nat := 4

/-- The bytes of a choice between two states. -/
def choiceOfTwo : Nat := stateSize + 2 * choiceSize

/-- The bytes of the states for one character. -/
def CharClass.size (d : Direction) (cls : CharClass) : Nat :=
  let ranges := cls.toRanges
  match ranges with
  | [(first, last)] => if first = last then stateSize * Utf8.width first else ofRanges ranges
  | _ => ofRanges ranges
where
  ofRanges (ranges : List (Nat × Nat)) : Nat :=
    if ranges.all fun r => r.2 < 0x80 then 2 * stateSize + rangeSize * ranges.length
    else
      let seqs := ranges.flatMap Utf8.sequences
      match d with
      | .forward =>
        (Utf8.continuations 4 seqs).eraseDups.foldl
          (fun total left => total + stateSize + rangeSize * (Utf8.branches left).length) stateSize
      | .backward => stateSize * (Utf8.beginnings [] seqs + 2) + choiceSize * seqs.length

namespace Pattern

/-- Whether every match is empty. -/
def takesNothing : Pattern → Bool
  | empty | look .. => true
  | char _ => false
  | seq a b | alt a b => a.takesNothing && b.takesNothing
  | times a _ high => a.takesNothing || high = some 0
  | capture a => a.takesNothing

/-- Whether no match is empty. -/
def takesSome : Pattern → Bool
  | empty | look .. => false
  | char _ => true
  | seq a b => a.takesSome || b.takesSome
  | alt a b => a.takesSome && b.takesSome
  | times a low _ => 0 < low && a.takesSome
  | capture a => a.takesSome

/-- The bytes that an alternative saves when it stands among the alternatives of another one. -/
def savedAmong : Pattern → Nat
  | alt .. => 2 * stateSize + choiceSize
  | _ => 0

/-- The bytes of a repeated part, which takes `n` bytes itself. It is written out as often as it is counted. -/
def repeatedSize (a : Pattern) (n low : Nat) : Option Nat → Nat
  | none =>
    if 0 < low then n * low + choiceOfTwo
    else if a.takesSome then n + choiceOfTwo
    else n + 2 * choiceOfTwo + stateSize
  | some high =>
    if low = high then n * low
    else if low = 0 ∧ high = 1 then n + choiceOfTwo + stateSize
    else n * high + choiceOfTwo * (high - low) + (if low = 0 then 2 * stateSize else stateSize)

/-- The bytes of the states for a pattern. What takes nothing is not repeated. -/
def size (d : Direction) : Pattern → Nat
  | empty | look .. => stateSize
  | char cls => cls.size d
  | seq a b => inSequence a (a.size d) + inSequence b (b.size d)
  | alt a b => a.size d + b.size d + 2 * stateSize + 2 * choiceSize - a.savedAmong - b.savedAmong
  | times a low high =>
    if a.takesNothing then a.repeatedSize (a.size d) (min low 1) (some (min (high.getD 1) 1))
    else a.repeatedSize (a.size d) low high
  | capture a => a.size d + if d = .forward then 2 * stateSize else 0
where
  inSequence : Pattern → Nat → Nat
    | empty, _ => 0
    | _, n => n

/-- The bytes of an automaton: a loop over any bytes in front of the match, the match as a whole and its end. -/
def automatonSize (d : Direction) (p : Pattern) : Nat :=
  2 * stateSize + rangeSize + choiceOfTwo + (capture p).size d + stateSize

/-- The greatest size of an automaton. -/
def sizeLimit : Nat := 10485760

/-- Whether the automata of a pattern are small enough. -/
def fits (p : Pattern) : Bool :=
  p.automatonSize .forward ≤ sizeLimit && p.automatonSize .backward ≤ sizeLimit

end Pattern

end FieldRules
