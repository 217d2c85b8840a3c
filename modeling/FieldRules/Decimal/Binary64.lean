/-
Finite binary floating-point numbers with 53 significant bits. A magnitude is known by its rank
among the non-negative numbers of the format, so the order of the numbers is the order of the
signed ranks, and a rounded ratio is computed exactly on natural numbers: `ofRatio` gives the
nearest number of the format, a tie going to the even rank.
-/
import FieldRules.Decimal.Power

namespace FieldRules

/-- A finite number of the format: its sign and the rank of its magnitude, counted from zero. -/
structure Binary64 where
  neg : Bool
  rank : Nat
  rank_lt : rank < 2047 * twoPow 52
deriving DecidableEq

namespace Binary64

def zero (neg : Bool) : Binary64 := ⟨neg, 0, by decide⟩

instance : Inhabited Binary64 := ⟨zero false⟩

def isZero (x : Binary64) : Bool :=
  x.rank == 0

/-- The 64 bits of the interchange format, as a number. -/
def bits (x : Binary64) : Nat :=
  x.rank + if x.neg then twoPow 63 else 0

/-! ## Value -/

/-- The magnitude is `mantissa · 2 ^ exponent`. -/
def mantissa (x : Binary64) : Nat :=
  if x.rank < twoPow 52 then x.rank else x.rank % twoPow 52 + twoPow 52

def exponent (x : Binary64) : Int :=
  if x.rank < twoPow 52 then -1074 else ((x.rank / twoPow 52 : Nat) : Int) - 1075

/-- A number without a fractional part. -/
def isIntegral (x : Binary64) : Bool :=
  x.mantissa % twoPow (-x.exponent).toNat == 0

/-- The whole part of the magnitude. -/
def wholePart (x : Binary64) : Nat :=
  x.mantissa * twoPow x.exponent.toNat / twoPow (-x.exponent).toNat

/-! ## Order -/

/-- The signed rank; both zeros have the key `0`. -/
def key (x : Binary64) : Int :=
  if x.neg then -(x.rank : Int) else x.rank

instance : LE Binary64 := ⟨fun x y => x.key ≤ y.key⟩
instance : LT Binary64 := ⟨fun x y => x.key < y.key⟩
instance (x y : Binary64) : Decidable (x ≤ y) := inferInstanceAs (Decidable (x.key ≤ y.key))
instance (x y : Binary64) : Decidable (x < y) := inferInstanceAs (Decidable (x.key < y.key))

/-- Equality of values: the two zeros are the same value. -/
def same (x y : Binary64) : Bool :=
  x.key == y.key

theorem le_iff_key {x y : Binary64} : x ≤ y ↔ x.key ≤ y.key := Iff.rfl

theorem lt_iff_key {x y : Binary64} : x < y ↔ x.key < y.key := Iff.rfl

theorem same_iff_key {x y : Binary64} : x.same y = true ↔ x.key = y.key := by
  simp [same]

/-! ## Rounding -/

/-- The whole number nearest to `num / den`, a tie going to the even one. -/
def divHalfEven (num den : Nat) : Nat :=
  let q := num / den
  let twice := 2 * (num % den)
  if twice < den then q else if den < twice then q + 1 else q + q % 2

/-- The greatest `e` with `2 ^ e ≤ num / den`, for positive `num` and `den`. -/
def floorLog2 (num den : Nat) : Int :=
  let e : Int := (num.log2 : Int) - (den.log2 : Int)
  if den * twoPow e.toNat ≤ num * twoPow (-e).toNat then e else e - 1

/-- The rank of the number nearest to `num / den`, without a bound above. -/
def rankOfRatio (num den : Nat) : Nat :=
  if num = 0 then 0
  else
    let q := max (floorLog2 num den - 52) (-1074)
    divHalfEven (num * twoPow (-q).toNat) (den * twoPow q.toNat) + (q + 1074).toNat * twoPow 52

/-- The number nearest to `± num / den`, unless it lies beyond the greatest one. -/
def ofRatio (neg : Bool) (num den : Nat) : Option Binary64 :=
  let r := rankOfRatio num den
  if h : r < 2047 * twoPow 52 then some ⟨neg, r, h⟩ else none

/-- The number nearest to `± n`, for an `n` well below the greatest one. -/
def ofNat (neg : Bool) (n : Nat) : Binary64 :=
  (ofRatio neg n 1).getD (zero neg)

/-- The number of decimal digits. -/
def digitCount (n : Nat) : Nat :=
  (Nat.toDigits 10 n).length

/-- The number nearest to `± n · 10 ^ e`. Powers far outside the format's range are not computed. -/
def ofDecimal (neg : Bool) (n : Nat) (e : Int) : Option Binary64 :=
  let size := e + digitCount n
  if n = 0 ∨ size < -330 then some (zero neg)
  else if 310 < size then none
  else ofRatio neg (n * tenPow e.toNat) (tenPow (-e).toNat)

end Binary64

end FieldRules
