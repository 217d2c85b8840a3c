/-
Rounding to the binary format, said of rational numbers. A number of the format covers the rationals between
the two halfway points to its neighbours, and the halfway points themselves when its mantissa is even
(`Binary64.Covers`). The main statement is `ofDecimal_eq`: a decimal is rounded to the number that covers it.
-/
import FieldRules.Decimal.Shortest
import Mathlib.Algebra.Order.Field.Power
import Mathlib.Data.Rat.Cast.Order
import Mathlib.Tactic.FieldSimp
import Mathlib.Tactic.Linarith
import Mathlib.Tactic.LinearCombination
import Mathlib.Tactic.Positivity
import Mathlib.Tactic.Ring

namespace FieldRules

/-! ## Powers -/

/-- A power of a positive base as a quotient of two powers with natural exponents. -/
theorem natCast_pow_toNat {b : ℕ} (hb : 0 < b) (e : ℤ) :
    ((Nat.pow b e.toNat : ℕ) : ℚ) = (b : ℚ) ^ e * (Nat.pow b (-e).toNat : ℕ) := by
  have hb' : (b : ℚ) ≠ 0 := Nat.cast_ne_zero.2 hb.ne'
  simp only [Nat.pow_eq, Nat.cast_pow]
  rw [← zpow_natCast, ← zpow_natCast, ← zpow_add₀ hb']
  congr 1
  omega

theorem twoPow_eq (n : ℕ) : twoPow n = 2 ^ n :=
  rfl

theorem twoPow_toNat (e : ℤ) : (twoPow e.toNat : ℚ) = 2 ^ e * twoPow (-e).toNat :=
  natCast_pow_toNat Nat.two_pos e

theorem tenPow_toNat (e : ℤ) : (tenPow e.toNat : ℚ) = 10 ^ e * tenPow (-e).toNat :=
  natCast_pow_toNat (by decide : 0 < 10) e

theorem two_zpow_pos (e : ℤ) : (0 : ℚ) < 2 ^ e :=
  zpow_pos (by norm_num) e

theorem two_zpow_add (a : ℤ) (n : ℕ) : (2 : ℚ) ^ (a + n) = 2 ^ a * 2 ^ n := by
  rw [zpow_add₀ two_ne_zero, zpow_natCast]

theorem ten_zpow_pos (e : ℤ) : (0 : ℚ) < 10 ^ e :=
  zpow_pos (by norm_num) e

theorem twoPow_cast_pos (n : ℕ) : (0 : ℚ) < twoPow n :=
  Nat.cast_pos.2 (twoPow_pos n)

theorem tenPow_cast_pos (n : ℕ) : (0 : ℚ) < tenPow n :=
  Nat.cast_pos.2 (tenPow_pos n)

namespace Binary64

variable {x : Binary64}

/-! ## Mantissa and exponent -/

/-- The numbers of the least exponent have their rank as the mantissa; the others have a leading bit. -/
theorem parts (x : Binary64) : (x.rank < 2 ^ 52 ∧ x.mantissa = x.rank ∧ x.exponent = -1074) ∨
    (2 ^ 52 ≤ x.rank ∧ x.mantissa = x.rank % 2 ^ 52 + 2 ^ 52 ∧ x.exponent = (x.rank / 2 ^ 52 : ℕ) - 1075) := by
  unfold mantissa exponent
  rw [twoPow_eq]
  split
  · next h => exact Or.inl ⟨h, rfl, rfl⟩
  · next h => exact Or.inr ⟨not_lt.1 h, rfl, rfl⟩

theorem rank_eq (x : Binary64) : (x.rank : ℤ) = x.mantissa + (x.exponent + 1074) * 2 ^ 52 := by
  have hparts := x.parts
  omega

theorem mantissa_lt (x : Binary64) : x.mantissa < 2 ^ 53 := by
  have hparts := x.parts
  omega

theorem le_exponent (x : Binary64) : -1074 ≤ x.exponent := by
  have hparts := x.parts
  omega

theorem exponent_le (x : Binary64) : x.exponent ≤ 971 := by
  have hrank : x.rank < 2047 * 2 ^ 52 := x.rank_lt
  have hparts := x.parts
  omega

theorem le_mantissa (h : -1074 < x.exponent) : 2 ^ 52 ≤ x.mantissa := by
  have hparts := x.parts
  omega

theorem rank_eq_zero (h : x.mantissa = 0) : x.rank = 0 := by
  have hparts := x.parts
  omega

/-! ## The interval of a number -/

/-- The magnitude as a rational number. -/
def magnitude (x : Binary64) : ℚ :=
  x.mantissa * 2 ^ x.exponent

/-- A quarter of the distance to the next greater number. -/
def quarter (x : Binary64) : ℚ :=
  2 ^ (x.exponent - 2)

/-- The quarters to the halfway point below: at a power of two the numbers below lie twice as close. -/
def below (x : Binary64) : ℕ :=
  if x.mantissa = twoPow 52 ∧ -1074 < x.exponent then 1 else 2

/-- The rationals that are rounded to the magnitude of the number. -/
structure Covers (x : Binary64) (r : ℚ) : Prop where
  lower : (4 * x.mantissa - x.below) * x.quarter < r ∨
    x.mantissa % 2 = 0 ∧ (4 * x.mantissa - x.below) * x.quarter = r
  upper : r < (4 * x.mantissa + 2) * x.quarter ∨
    x.mantissa % 2 = 0 ∧ r = (4 * x.mantissa + 2) * x.quarter

theorem quarter_pos (x : Binary64) : 0 < x.quarter :=
  two_zpow_pos _

theorem two_zpow_exponent (x : Binary64) : (2 : ℚ) ^ x.exponent = 4 * x.quarter := by
  rw [quarter, zpow_sub₀ two_ne_zero, show (2 : ℚ) ^ (2 : ℤ) = 4 by norm_num]
  ring

theorem magnitude_eq (x : Binary64) : x.magnitude = 4 * x.mantissa * x.quarter := by
  rw [magnitude, two_zpow_exponent]
  ring

theorem magnitude_lt_two_zpow (x : Binary64) : x.magnitude < 2 ^ (x.exponent + 53) := by
  have hm : (x.mantissa : ℚ) < 2 ^ 53 := by exact_mod_cast x.mantissa_lt
  rw [show x.exponent + 53 = x.exponent + (53 : ℕ) from rfl, two_zpow_add, mul_comm]
  exact mul_lt_mul_of_pos_right hm (two_zpow_pos _)

/-- The magnitude as a quotient of whole numbers; one of the two powers is one. -/
theorem magnitude_eq_div (x : Binary64) :
    x.magnitude = (x.mantissa * twoPow x.exponent.toNat : ℕ) / (twoPow (-x.exponent).toNat : ℕ) := by
  rw [Nat.cast_mul, twoPow_toNat x.exponent, ← mul_assoc, mul_div_cancel_right₀ _ (twoPow_cast_pos _).ne']
  rfl

theorem one_le_below (x : Binary64) : (1 : ℚ) ≤ x.below := by
  unfold below
  split
  · norm_num
  · norm_num

theorem below_le (x : Binary64) : (x.below : ℚ) ≤ 2 := by
  unfold below
  split
  · norm_num
  · norm_num

theorem Covers.le {r : ℚ} (h : x.Covers r) : r ≤ (4 * x.mantissa + 2) * x.quarter := by
  rcases h.upper with h | ⟨-, h⟩
  · exact h.le
  · exact h.le

theorem Covers.ge {r : ℚ} (h : x.Covers r) : (4 * x.mantissa - x.below) * x.quarter ≤ r := by
  rcases h.lower with h | ⟨-, h⟩
  · exact h.le
  · exact h.le

/-! ## Whole numbers near a ratio -/

/-- The nearest whole number is the one at a distance of at most one half, and even if it is one half. -/
theorem divHalfEven_eq {a b n : ℕ} (hb : 0 < b)
    (hlower : 2 * (n * b) < 2 * a + b ∨ n % 2 = 0 ∧ 2 * (n * b) = 2 * a + b)
    (hupper : 2 * a < 2 * (n * b) + b ∨ n % 2 = 0 ∧ 2 * a = 2 * (n * b) + b) : divHalfEven a b = n := by
  obtain ⟨q, hq⟩ : ∃ q, a / b = q := ⟨_, rfl⟩
  obtain ⟨r, hr⟩ : ∃ r, a % b = r := ⟨_, rfl⟩
  have hdiv : b * q + r = a := by rw [← hq, ← hr, Nat.div_add_mod]
  have hmod : r < b := by rw [← hr]; exact Nat.mod_lt a hb
  have hqn : q ≤ n := by
    by_contra hlt
    have : b * (n + 1) ≤ b * q := Nat.mul_le_mul_left b (by omega)
    rw [Nat.mul_succ, Nat.mul_comm b n] at this
    omega
  have hnq : n ≤ q + 1 := by
    by_contra hlt
    have : b * (q + 2) ≤ b * n := Nat.mul_le_mul_left b (by omega)
    rw [Nat.mul_add, Nat.mul_comm b n] at this
    omega
  -- either may be the nearest; which one it is depends on the remainder alone
  have hn : n = q ∨ n = q + 1 := by omega
  unfold divHalfEven
  rw [hq, hr]
  rcases hn with rfl | rfl
  · rw [Nat.mul_comm n b] at hlower hupper
    simp only
    split_ifs <;> omega
  · rw [Nat.add_mul, Nat.mul_comm q b] at hlower hupper
    simp only
    split_ifs <;> omega

/-- The same, said of the ratio. -/
theorem divHalfEven_eq_of_ratio {a b n : ℕ} (hb : 0 < b)
    (hlower : (2 * n - 1 : ℚ) < 2 * (a / b) ∨ n % 2 = 0 ∧ (2 * n - 1 : ℚ) = 2 * (a / b))
    (hupper : (2 * (a / b) : ℚ) < 2 * n + 1 ∨ n % 2 = 0 ∧ (2 * (a / b) : ℚ) = 2 * n + 1) : divHalfEven a b = n := by
  have hb' : (0 : ℚ) < b := Nat.cast_pos.2 hb
  have ha : (a : ℚ) / b * b = a := div_mul_cancel₀ _ hb'.ne'
  refine divHalfEven_eq hb (hlower.imp (fun h => ?_) (And.imp_right fun h => ?_))
    (hupper.imp (fun h => ?_) (And.imp_right fun h => ?_))
  · have : ((2 * (n * b) : ℕ) : ℚ) < (2 * a + b : ℕ) := by
      push_cast
      nlinarith
    exact_mod_cast this
  · have : ((2 * (n * b) : ℕ) : ℚ) = (2 * a + b : ℕ) := by
      push_cast
      linear_combination b * h + 2 * ha
    exact_mod_cast this
  · have : ((2 * a : ℕ) : ℚ) < (2 * (n * b) + b : ℕ) := by
      push_cast
      nlinarith
    exact_mod_cast this
  · have : ((2 * a : ℕ) : ℚ) = (2 * (n * b) + b : ℕ) := by
      push_cast
      linear_combination b * h - 2 * ha
    exact_mod_cast this

/-! ## Powers of two near a ratio -/

theorem scaled_le_iff {num den : ℕ} (hden : 0 < den) (e : ℤ) :
    den * twoPow e.toNat ≤ num * twoPow (-e).toNat ↔ (2 : ℚ) ^ e ≤ num / den := by
  have hden' : (0 : ℚ) < den := Nat.cast_pos.2 hden
  have ht := twoPow_cast_pos (-e).toNat
  rw [← Nat.cast_le (α := ℚ), Nat.cast_mul, Nat.cast_mul, twoPow_toNat, le_div_iff₀ hden', ← mul_assoc,
    mul_le_mul_iff_of_pos_right ht, mul_comm]

theorem scaled_ratio (num den : ℕ) (e : ℤ) :
    ((num * twoPow (-e).toNat : ℕ) : ℚ) / (den * twoPow e.toNat : ℕ) = num / den / 2 ^ e := by
  have ht := twoPow_cast_pos (-e).toNat
  rw [Nat.cast_mul, Nat.cast_mul, twoPow_toNat e, ← mul_assoc, mul_div_mul_right _ _ ht.ne', div_div]

theorem floorLog2_spec {num den : ℕ} (hnum : 0 < num) (hden : 0 < den) :
    (2 : ℚ) ^ floorLog2 num den ≤ num / den ∧ (num : ℚ) / den < 2 ^ (floorLog2 num den + 1) := by
  have hden' : (0 : ℚ) < den := Nat.cast_pos.2 hden
  have hlog : ∀ {k : ℕ}, 0 < k → (2 : ℚ) ^ (k.log2 : ℤ) ≤ k ∧ (k : ℚ) < 2 ^ ((k.log2 : ℤ) + 1) := by
    intro k hk
    constructor
    · exact_mod_cast Nat.log2_self_le hk.ne'
    · exact_mod_cast Nat.lt_log2_self
  obtain ⟨hnum₁, hnum₂⟩ := hlog hnum
  obtain ⟨hden₁, hden₂⟩ := hlog hden
  unfold floorLog2
  simp only [scaled_le_iff hden]
  generalize (num.log2 : ℤ) = a at *
  generalize (den.log2 : ℤ) = b at *
  split
  · next h =>
    refine ⟨h, ?_⟩
    rw [div_lt_iff₀ hden']
    calc (num : ℚ) < 2 ^ (a + 1) := hnum₂
      _ = 2 ^ (a - b + 1) * 2 ^ b := by
        rw [← zpow_add₀ two_ne_zero]
        congr 1
        omega
      _ ≤ 2 ^ (a - b + 1) * den := by
        have := two_zpow_pos (a - b + 1)
        gcongr
  · next h =>
    rw [not_le] at h
    rw [sub_add_cancel]
    refine ⟨?_, h⟩
    rw [le_div_iff₀ hden']
    calc (2 : ℚ) ^ (a - b - 1) * den ≤ 2 ^ (a - b - 1) * 2 ^ (b + 1) := by
          have := two_zpow_pos (a - b - 1)
          gcongr
      _ = 2 ^ a := by
        rw [← zpow_add₀ two_ne_zero]
        congr 1
        omega
      _ ≤ num := hnum₁

theorem two_zpow_lt_iff {a b : ℤ} : (2 : ℚ) ^ a < 2 ^ b ↔ a < b :=
  zpow_lt_zpow_iff_right₀ one_lt_two

/-- The multiple of the unit that a ratio is rounded to is given by the power of two below the ratio. -/
theorem floorLog2_eq {num den : ℕ} (hnum : 0 < num) (hden : 0 < den) {l : ℤ} (hle : (2 : ℚ) ^ l ≤ num / den)
    (hlt : (num : ℚ) / den < 2 ^ (l + 1)) : floorLog2 num den = l := by
  obtain ⟨h₁, h₂⟩ := floorLog2_spec hnum hden
  have hl := two_zpow_lt_iff.1 (h₁.trans_lt hlt)
  have hr := two_zpow_lt_iff.1 (hle.trans_lt h₂)
  omega

/-! ## Rounding a ratio -/

section
variable {num den : ℕ}

/-- The numbers that the format has twice as close below, are the powers of two. -/
theorem mantissa_eq_of_lt {r : ℚ} (h : x.Covers r) (he : -1074 < x.exponent) (hr : r < 2 ^ (x.exponent + 52)) :
    x.mantissa = 2 ^ 52 ∧ x.below = 1 := by
  have hm := le_mantissa he
  have hu := x.quarter_pos
  have hr' : r < 2 ^ 54 * x.quarter := by
    refine hr.trans_eq ?_
    rw [show x.exponent + 52 = x.exponent + (52 : ℕ) from rfl, two_zpow_add, two_zpow_exponent]
    ring
  by_contra hne
  -- with any other mantissa, even the lower end lies at or above that power of two
  have hlower : (2 : ℚ) ^ 54 ≤ 4 * x.mantissa - x.below := by
    by_cases hm' : x.mantissa = 2 ^ 52
    · exact absurd ⟨hm', if_pos ⟨hm', he⟩⟩ hne
    · have hm'' : (2 ^ 52 + 1 : ℚ) ≤ x.mantissa := by exact_mod_cast Nat.lt_of_le_of_ne hm (Ne.symm hm')
      have := x.below_le
      linarith
  have := mul_le_mul_of_nonneg_right hlower hu.le
  linarith [h.ge]

theorem Covers.lt_two_zpow {r : ℚ} (h : x.Covers r) : r < 2 ^ (x.exponent + 53) := by
  have hm : (x.mantissa : ℚ) + 1 ≤ 2 ^ 53 := by exact_mod_cast x.mantissa_lt
  refine h.le.trans_lt ?_
  rw [show x.exponent + 53 = x.exponent + (53 : ℕ) from rfl, two_zpow_add, two_zpow_exponent]
  have := mul_lt_mul_of_pos_right (show 4 * (x.mantissa : ℚ) + 2 < 4 * 2 ^ 53 by linarith) x.quarter_pos
  linarith

/-- The unit of a ratio is that of the number, or half of it right below a power of two. -/
theorem unit_of_covers (hnum : 0 < num) (hden : 0 < den) (h : x.Covers (num / den)) :
    max (floorLog2 num den - 52) (-1074) = x.exponent ∨
      max (floorLog2 num den - 52) (-1074) = x.exponent - 1 ∧ -1074 < x.exponent ∧
        (num : ℚ) / den < 2 ^ (x.exponent + 52) := by
  have he := x.le_exponent
  by_cases hpower : (2 : ℚ) ^ (x.exponent + 52) ≤ num / den
  · have hlog : floorLog2 num den = x.exponent + 52 := floorLog2_eq hnum hden hpower (by
      rw [add_assoc]
      exact h.lt_two_zpow)
    omega
  · rw [not_le] at hpower
    have hlog := two_zpow_lt_iff.1 ((floorLog2_spec hnum hden).1.trans_lt hpower)
    by_cases hleast : x.exponent = -1074
    · omega
    · obtain ⟨hm, hbelow⟩ := mantissa_eq_of_lt h (by omega) hpower
      have hhalf : (2 : ℚ) ^ (x.exponent + 51) ≤ num / den := by
        refine le_trans ?_ h.ge
        rw [show x.exponent + 51 = x.exponent + (51 : ℕ) from rfl, two_zpow_add, two_zpow_exponent, hm, hbelow]
        have := x.quarter_pos
        push_cast
        linarith
      have hlog := floorLog2_eq hnum hden hhalf (by rw [add_assoc]; exact hpower)
      exact Or.inr ⟨by omega, by omega, hpower⟩

theorem rankOfRatio_eq (hnum : 0 < num) (hden : 0 < den) (h : x.Covers (num / den)) : rankOfRatio num den = x.rank := by
  have hu := x.quarter_pos
  have hrank := x.rank_eq
  have he := x.le_exponent
  -- the ratio in quarters
  obtain ⟨w, hw⟩ : ∃ w : ℚ, (num : ℚ) / den = w * x.quarter := ⟨_, (div_mul_cancel₀ _ hu.ne').symm⟩
  have hlower : 4 * x.mantissa - x.below < w ∨ x.mantissa % 2 = 0 ∧ 4 * x.mantissa - x.below = w := by
    refine h.lower.imp (fun hlt => ?_) (And.imp_right fun heq => ?_)
    · exact lt_of_mul_lt_mul_right (hw ▸ hlt) hu.le
    · exact mul_right_cancel₀ hu.ne' (hw ▸ heq)
  have hupper : w < 4 * x.mantissa + 2 ∨ x.mantissa % 2 = 0 ∧ w = 4 * x.mantissa + 2 := by
    refine h.upper.imp (fun hlt => ?_) (And.imp_right fun heq => ?_)
    · exact lt_of_mul_lt_mul_right (hw ▸ hlt) hu.le
    · exact mul_right_cancel₀ hu.ne' (hw ▸ heq)
  unfold rankOfRatio
  rw [if_neg hnum.ne']
  simp only
  rcases unit_of_covers hnum hden h with hq | ⟨hq, hleast, hpower⟩
  · -- rounded in its own unit, the number comes out with its own mantissa
    rw [hq]
    have hratio : 2 * (((num * twoPow (-x.exponent).toNat : ℕ) : ℚ) / (den * twoPow x.exponent.toNat : ℕ)) = w / 2 := by
      rw [scaled_ratio, hw, two_zpow_exponent]
      field_simp
      ring
    have hdiv : divHalfEven (num * twoPow (-x.exponent).toNat) (den * twoPow x.exponent.toNat) = x.mantissa := by
      have hbelow := x.below_le
      refine divHalfEven_eq_of_ratio (Nat.mul_pos hden (twoPow_pos _)) ?_ ?_
      · rw [hratio]
        rcases hlower with hlt | ⟨heven, heq⟩
        · exact Or.inl (by linarith)
        · exact (lt_or_eq_of_le (by linarith)).imp_right fun heq => ⟨heven, heq⟩
      · rw [hratio]
        exact hupper.imp (fun hlt => by linarith) (And.imp_right fun heq => by linarith)
    rw [hdiv, twoPow_eq]
    omega
  · -- rounded in half of it, a power of two comes out with twice the mantissa, which is the same rank
    obtain ⟨hm, hbelow⟩ := mantissa_eq_of_lt h hleast hpower
    rw [hq]
    have hratio : 2 * (((num * twoPow (-(x.exponent - 1)).toNat : ℕ) : ℚ) /
        (den * twoPow (x.exponent - 1).toNat : ℕ)) = w := by
      rw [scaled_ratio, hw, zpow_sub₀ two_ne_zero, two_zpow_exponent]
      field_simp
      ring
    have hw' : w < 2 ^ 54 := by
      rw [hw, show x.exponent + 52 = x.exponent + (52 : ℕ) from rfl, two_zpow_add, two_zpow_exponent] at hpower
      exact lt_of_mul_lt_mul_right (hpower.trans_eq (by ring)) hu.le
    have hdiv : divHalfEven (num * twoPow (-(x.exponent - 1)).toNat) (den * twoPow (x.exponent - 1).toNat) = 2 ^ 53 := by
      refine divHalfEven_eq_of_ratio (Nat.mul_pos hden (twoPow_pos _)) ?_ (Or.inl ?_)
      · rw [hratio]
        rw [hm, hbelow] at hlower
        push_cast at hlower ⊢
        exact hlower.imp (fun hlt => by linarith) (And.imp (fun _ => by norm_num) fun heq => by linarith)
      · rw [hratio]
        push_cast
        linarith
    rw [hdiv, twoPow_eq]
    omega

theorem ofRatio_eq (hnum : 0 < num) (hden : 0 < den) (h : x.Covers (num / den)) :
    ofRatio x.neg num den = some x := by
  have hrank := rankOfRatio_eq hnum hden h
  unfold ofRatio
  simp only [hrank, dif_pos x.rank_lt]

end

/-! ## Rounding a decimal -/

theorem ten_zpow_lt_iff {a b : ℤ} : (10 : ℚ) ^ a < 10 ^ b ↔ a < b :=
  zpow_lt_zpow_iff_right₀ (by norm_num)

theorem two_zpow_lt_ten_zpow : (2 : ℚ) ^ (1024 : ℤ) < 10 ^ (309 : ℤ) := by
  have h : (2 : ℕ) ^ 1024 < 10 ^ 309 := by decide +kernel
  exact_mod_cast h

theorem ten_zpow_le_two_zpow : (10 : ℚ) ^ (-324 : ℤ) ≤ 2 ^ (-1075 : ℤ) := by
  have h : (2 : ℕ) ^ 1075 ≤ 10 ^ 324 := by decide +kernel
  rw [zpow_neg, zpow_neg]
  exact inv_anti₀ (two_zpow_pos 1075) (by exact_mod_cast h)

theorem digitCount_pos (n : ℕ) : 0 < digitCount n :=
  Nat.length_toDigits_pos

theorem lt_pow_digitCount (n : ℕ) : n < 10 ^ digitCount n :=
  (Nat.length_toDigits_le_iff (by decide) (digitCount_pos n)).1 le_rfl

theorem pow_digitCount_le {n : ℕ} (hn : n ≠ 0) : 10 ^ (digitCount n - 1) ≤ n := by
  have hpos := digitCount_pos n
  by_cases h : digitCount n = 1
  · rw [h]
    exact Nat.one_le_iff_ne_zero.2 hn
  · by_contra hlt
    have hle : (Nat.toDigits 10 n).length ≤ digitCount n - 1 :=
      (Nat.length_toDigits_le_iff (by decide) (by omega)).2 (not_le.1 hlt)
    have : (Nat.toDigits 10 n).length = digitCount n := rfl
    omega

/-- The size of a decimal is the exponent of the power of ten above it. -/
theorem decimal_lt (n : ℕ) (e : ℤ) : (n : ℚ) * 10 ^ e < 10 ^ (e + digitCount n) := by
  have hn : (n : ℚ) < 10 ^ digitCount n := by exact_mod_cast lt_pow_digitCount n
  rw [zpow_add₀ (by norm_num), zpow_natCast, mul_comm]
  exact mul_lt_mul_of_pos_left hn (ten_zpow_pos e)

theorem le_decimal {n : ℕ} (hn : n ≠ 0) (e : ℤ) : (10 : ℚ) ^ (e + digitCount n - 1) ≤ n * 10 ^ e := by
  have hpos := digitCount_pos n
  have hn' : (10 : ℚ) ^ (digitCount n - 1) ≤ n := by exact_mod_cast pow_digitCount_le hn
  rw [show e + digitCount n - 1 = e + (digitCount n - 1 : ℕ) by omega, zpow_add₀ (by norm_num), zpow_natCast, mul_comm]
  exact mul_le_mul_of_nonneg_right hn' (ten_zpow_pos e).le

theorem Covers.ge_two_zpow {r : ℚ} (h : x.Covers r) (hm : x.mantissa ≠ 0) : (2 : ℚ) ^ (-1075 : ℤ) ≤ r := by
  have hm' : (1 : ℚ) ≤ x.mantissa := by exact_mod_cast Nat.one_le_iff_ne_zero.2 hm
  have hbelow := x.below_le
  have hu : (2 : ℚ) ^ (-1076 : ℤ) ≤ x.quarter := by
    have he := x.le_exponent
    exact zpow_le_zpow_right₀ one_le_two (by omega)
  calc (2 : ℚ) ^ (-1075 : ℤ) = 2 ^ (1 + -1076 : ℤ) := by rfl
    _ = 2 * 2 ^ (-1076 : ℤ) := zpow_one_add₀ two_ne_zero (-1076)
    _ ≤ (4 * x.mantissa - x.below) * x.quarter :=
      mul_le_mul (by linarith) hu (two_zpow_pos _).le (by linarith)
    _ ≤ r := h.ge

/-- What a number covers is neither so small nor so great that its power of ten is not computed. -/
theorem size_of_covers {n : ℕ} {e : ℤ} (h : x.Covers (n * 10 ^ e)) (hm : x.mantissa ≠ 0) :
    n ≠ 0 ∧ -324 < e + digitCount n ∧ e + digitCount n ≤ 309 := by
  have hpos : (0 : ℚ) < n * 10 ^ e := (two_zpow_pos _).trans_le (h.ge_two_zpow hm)
  have hn : n ≠ 0 := by
    rintro rfl
    rw [Nat.cast_zero, zero_mul] at hpos
    exact lt_irrefl _ hpos
  refine ⟨hn, ?_, ?_⟩
  · refine ten_zpow_lt_iff.1 ?_
    calc (10 : ℚ) ^ (-324 : ℤ) ≤ 2 ^ (-1075 : ℤ) := ten_zpow_le_two_zpow
      _ ≤ n * 10 ^ e := h.ge_two_zpow hm
      _ < 10 ^ (e + digitCount n) := decimal_lt n e
  · have hlt : e + digitCount n - 1 < 309 := by
      refine ten_zpow_lt_iff.1 ?_
      calc (10 : ℚ) ^ (e + digitCount n - 1) ≤ n * 10 ^ e := le_decimal hn e
        _ < 2 ^ (x.exponent + 53) := h.lt_two_zpow
        _ ≤ 2 ^ (1024 : ℤ) := zpow_le_zpow_right₀ one_le_two (by have := x.exponent_le; omega)
        _ < 10 ^ (309 : ℤ) := two_zpow_lt_ten_zpow
    omega

/-- A decimal as a quotient of whole numbers; one of the two powers is one. -/
theorem decimal_ratio (n : ℕ) (e : ℤ) :
    ((n * tenPow e.toNat : ℕ) : ℚ) / (tenPow (-e).toNat : ℕ) = n * 10 ^ e := by
  rw [Nat.cast_mul, tenPow_toNat e, ← mul_assoc, mul_div_cancel_right₀ _ (tenPow_cast_pos _).ne']

/-- A decimal is rounded to the number that covers it. -/
theorem ofDecimal_eq {n : ℕ} {e : ℤ} (h : x.Covers (n * 10 ^ e)) (hm : x.mantissa ≠ 0) :
    ofDecimal x.neg n e = some x := by
  obtain ⟨hn, hsmall, hgreat⟩ := size_of_covers h hm
  unfold ofDecimal
  simp only
  rw [if_neg (by omega), if_neg (by omega)]
  exact ofRatio_eq (Nat.mul_pos (Nat.pos_of_ne_zero hn) (tenPow_pos _)) (tenPow_pos _) ((decimal_ratio n e).symm ▸ h)

theorem ofDecimal_zero (h : x.mantissa = 0) (e : ℤ) : ofDecimal x.neg 0 e = some x := by
  have hrank := rank_eq_zero h
  obtain ⟨neg, rank, hlt⟩ := x
  cases hrank
  unfold ofDecimal
  exact if_pos (Or.inl rfl)

end Binary64

end FieldRules
