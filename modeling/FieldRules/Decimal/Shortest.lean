/-
The shortest decimal that rounds to a number of the binary format, and its layouts. On the grids
of one, two, … seventeen digits the two neighbours of the value are tested against the interval
that rounds to it; the first grid with a hit wins, and of two hits the nearer.
-/
import FieldRules.Decimal.Binary64

namespace FieldRules.Binary64

/-! ## Digits -/

/-- Compares `c · 10 ^ p` with `m · 2 ^ e`. -/
def compareDecimal (c : Nat) (p : Int) (m : Nat) (e : Int) : Ordering :=
  compare (c * tenPow p.toNat * twoPow (-e).toNat) (m * twoPow e.toNat * tenPow (-p).toNat)

/-- Whether `c · 10 ^ p` rounds to the magnitude of `x`; ends belong to even mantissas. -/
def roundsTo (x : Binary64) (c : Nat) (p : Int) : Bool :=
  let m := 4 * x.mantissa
  let e := x.exponent - 2
  let below := if x.mantissa = twoPow 52 ∧ -1074 < x.exponent then 1 else 2
  let even := x.mantissa % 2 == 0
  let lower := compareDecimal c p (m - below) e
  let upper := compareDecimal c p (m + 2) e
  (lower == .gt || (even && lower == .eq)) && (upper == .lt || (even && upper == .eq))

/-- The neighbour of the value on the grid of multiples of `10 ^ p` that rounds to it. -/
def onGrid? (x : Binary64) (p : Int) : Option (Nat × Int) :=
  let m := x.mantissa
  let e := x.exponent
  let c := m * twoPow e.toNat * tenPow (-p).toNat / (twoPow (-e).toNat * tenPow p.toNat)
  match x.roundsTo c p, x.roundsTo (c + 1) p with
  | true, true =>
    match compareDecimal (2 * c + 1) p (2 * m) e with
    | .gt => some (c, p)
    | .lt => some (c + 1, p)
    | .eq => some (c + c % 2, p)
  | true, false => some (c, p)
  | false, true => some (c + 1, p)
  | false, false => none

/-- The greatest `l` with `10 ^ l` at most the magnitude, which is not zero. -/
def floorLog10 (x : Binary64) : Int :=
  let guess := (floorLog2 (x.mantissa * twoPow x.exponent.toNat) (twoPow (-x.exponent).toNat) * 30103).fdiv 100000
  if compareDecimal 1 (guess + 1) x.mantissa x.exponent != .gt then guess + 1
  else if compareDecimal 1 guess x.mantissa x.exponent != .gt then guess
  else guess - 1

/-- `c · 10 ^ p` written with a coefficient that does not end in zero. -/
def stripZeros : Nat → Nat → Int → Nat × Int
  | 0, c, p => (c, p)
  | fuel + 1, c, p => if c % 10 = 0 ∧ c ≠ 0 then stripZeros fuel (c / 10) (p + 1) else (c, p)

/-- Coefficient and decimal exponent of the shortest decimal that rounds to the magnitude. -/
def shortest (x : Binary64) : Nat × Int :=
  if x.mantissa = 0 then (0, 0)
  else
    let top := x.floorLog10
    match (List.range 17).findSome? fun k => x.onGrid? (top - (k : Nat)) with
    | some (c, p) => stripZeros (digitCount c) c p
    | none => (0, 0)

/-! ## Layouts -/

/-- How a decimal is laid out. The exponent of a decimal is that of its first digit. -/
structure Layout where
  /-- The exponents that are written without an exponent mark. -/
  positional : Int → Bool
  /-- Whether a whole number keeps a zero behind the point. -/
  wholeWithPoint : Bool
  /-- Whether an exponent of zero or more has a plus sign. -/
  plusSign : Bool

/-- The digits with the point where the exponent `e` of the first digit puts it. -/
def Layout.positionalText (l : Layout) (digits : List Char) (e : Int) : List Char :=
  let whole := (e + 1).toNat
  let tail := if l.wholeWithPoint then ['.', '0'] else []
  if e < 0 then '0' :: '.' :: List.replicate (-e - 1).toNat '0' ++ digits
  else if digits.length ≤ whole then digits ++ List.replicate (whole - digits.length) '0' ++ tail
  else digits.take whole ++ '.' :: digits.drop whole

/-- The first digit, the others behind the point, and the exponent. -/
def Layout.scientificText (l : Layout) (digits : List Char) (e : Int) : List Char :=
  let mark := 'e' :: if e < 0 then ['-'] else if l.plusSign then ['+'] else []
  let fraction := match digits.drop 1 with
    | [] => []
    | rest => '.' :: rest
  digits.take 1 ++ fraction ++ mark ++ Nat.toDigits 10 e.natAbs

/-- The text of a number in a layout. -/
def Layout.write (l : Layout) (x : Binary64) : List Char :=
  let (c, p) := x.shortest
  let digits := Nat.toDigits 10 c
  let e := if c = 0 then 0 else p + (digits.length - 1 : Nat)
  let magnitude := if l.positional e then l.positionalText digits e else l.scientificText digits e
  if x.neg then '-' :: magnitude else magnitude

/-- Shortest digits, never an exponent, and no point after a whole number. -/
def plain : Layout := ⟨fun _ => true, false, false⟩

end FieldRules.Binary64
