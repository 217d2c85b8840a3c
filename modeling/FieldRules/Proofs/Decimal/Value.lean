/-
The exact values of numbers, as rationals. A number of the binary format is its magnitude with its sign
(`Binary64.value`), and a number of a JSON document is either such a number or an integer (`Number.value`). The
order of the format is the order of the values (`le_iff_value`), and the numbers without a fractional part are
those whose value is an integer (`isIntegral_iff`).
-/
import FieldRules.Json.Basic
import FieldRules.Proofs.Decimal.Rounding

namespace FieldRules

namespace Binary64

variable {x y : Binary64}

/-- The number itself, exactly. -/
def value (x : Binary64) : ℚ :=
  if x.neg then -x.magnitude else x.magnitude

/-! ## Magnitudes -/

theorem magnitude_nonneg (x : Binary64) : 0 ≤ x.magnitude :=
  mul_nonneg (Nat.cast_nonneg _) (two_zpow_pos _).le

theorem two_zpow_le_magnitude (h : -1074 < x.exponent) : 2 ^ (x.exponent + 52) ≤ x.magnitude := by
  have hm : (2 ^ 52 : ℚ) ≤ x.mantissa := by exact_mod_cast le_mantissa h
  rw [show x.exponent + 52 = x.exponent + (52 : ℕ) from rfl, two_zpow_add, mul_comm]
  exact mul_le_mul_of_nonneg_right hm (two_zpow_pos _).le

/-- Greater ranks have greater magnitudes: by the mantissa within one exponent, and otherwise because the least
magnitude of an exponent is beyond all those of the exponents below. -/
theorem magnitude_lt_of_rank_lt (h : x.rank < y.rank) : x.magnitude < y.magnitude := by
  have hx := x.rank_eq
  have hy := y.rank_eq
  have hmx := x.mantissa_lt
  have hmy := y.mantissa_lt
  have hex := x.le_exponent
  have hey := y.le_exponent
  have hle : x.exponent ≤ y.exponent := by
    have hpx := x.parts
    have hpy := y.parts
    omega
  rcases hle.lt_or_eq with hlt | heq
  · calc x.magnitude < 2 ^ (x.exponent + 53) := x.magnitude_lt_two_zpow
      _ ≤ 2 ^ (y.exponent + 52) := zpow_le_zpow_right₀ one_le_two (by omega)
      _ ≤ y.magnitude := two_zpow_le_magnitude (by omega)
  · have hm : (x.mantissa : ℚ) < y.mantissa := by
      rw [heq] at hx
      exact_mod_cast (show x.mantissa < y.mantissa by omega)
    unfold magnitude
    rw [heq]
    exact mul_lt_mul_of_pos_right hm (two_zpow_pos _)

theorem magnitude_eq_of_rank_eq (h : x.rank = y.rank) : x.magnitude = y.magnitude := by
  unfold magnitude mantissa exponent
  rw [h]

theorem magnitude_pos_of_rank_pos (h : 0 < x.rank) : 0 < x.magnitude := by
  refine lt_of_le_of_ne x.magnitude_nonneg fun hzero => ?_
  have hm : x.mantissa ≠ 0 := fun hm => h.ne' (rank_eq_zero hm)
  exact mul_ne_zero (Nat.cast_ne_zero.2 hm) (two_zpow_pos _).ne' hzero.symm

theorem magnitude_of_rank_zero (h : x.rank = 0) : x.magnitude = 0 := by
  rw [magnitude_eq_of_rank_eq (y := zero false) h]
  exact zero_mul _

theorem value_of_rank_zero (h : x.rank = 0) : x.value = 0 := by
  unfold value
  rw [magnitude_of_rank_zero h, neg_zero, ite_self]

/-! ## Order -/

theorem value_lt_of_key_lt (h : x.key < y.key) : x.value < y.value := by
  have hx := x.magnitude_nonneg
  have hy := y.magnitude_nonneg
  unfold key at h
  unfold value
  cases hxneg : x.neg with
  | false =>
    cases hyneg : y.neg with
    | false =>
      simp only [hxneg, hyneg, Bool.false_eq_true, if_false] at h ⊢
      exact magnitude_lt_of_rank_lt (by omega)
    | true =>
      simp only [hxneg, hyneg, Bool.false_eq_true, if_false, if_true] at h
      omega
  | true =>
    cases hyneg : y.neg with
    | false =>
      simp only [hxneg, hyneg, Bool.false_eq_true, if_false, if_true] at h ⊢
      -- one of the two is not zero
      rcases Nat.eq_zero_or_pos x.rank with hzero | hpos
      · have := magnitude_pos_of_rank_pos (x := y) (by omega)
        linarith
      · have := magnitude_pos_of_rank_pos hpos
        linarith
    | true =>
      simp only [hxneg, hyneg, if_true] at h ⊢
      exact neg_lt_neg (magnitude_lt_of_rank_lt (by omega))

theorem value_eq_of_key_eq (h : x.key = y.key) : x.value = y.value := by
  have hsame : x.rank = 0 ∧ y.rank = 0 ∨ x.neg = y.neg ∧ x.rank = y.rank := by
    unfold key at h
    cases hxneg : x.neg <;> cases hyneg : y.neg <;> simp [hxneg, hyneg] at h ⊢ <;> omega
  rcases hsame with ⟨hx, hy⟩ | ⟨hneg, hrank⟩
  · rw [value_of_rank_zero hx, value_of_rank_zero hy]
  · unfold value
    rw [hneg, magnitude_eq_of_rank_eq hrank]

theorem lt_iff_value : x < y ↔ x.value < y.value := by
  rw [lt_iff_key]
  refine ⟨value_lt_of_key_lt, fun h => ?_⟩
  rcases lt_trichotomy x.key y.key with hlt | heq | hgt
  · exact hlt
  · exact absurd (value_eq_of_key_eq heq) h.ne
  · exact absurd (value_lt_of_key_lt hgt) h.asymm

theorem le_iff_value : x ≤ y ↔ x.value ≤ y.value := by
  rw [le_iff_key, ← not_lt, ← not_lt, ← lt_iff_key, lt_iff_value]

theorem same_iff_value : x.same y = true ↔ x.value = y.value := by
  rw [same_iff_key]
  refine ⟨value_eq_of_key_eq, fun h => ?_⟩
  rcases lt_trichotomy x.key y.key with hlt | heq | hgt
  · exact absurd h (value_lt_of_key_lt hlt).ne
  · exact heq
  · exact absurd h (value_lt_of_key_lt hgt).ne'

/-! ## Integers -/

theorem isIntegral_iff_dvd :
    x.isIntegral = true ↔ twoPow (-x.exponent).toNat ∣ x.mantissa * twoPow x.exponent.toNat := by
  unfold isIntegral
  rw [beq_iff_eq, ← Nat.dvd_iff_mod_eq_zero]
  -- one of the two powers is one
  rcases le_total 0 x.exponent with h | h
  · rw [show (-x.exponent).toNat = 0 by omega, twoPow_zero]
    simp
  · rw [show x.exponent.toNat = 0 by omega, twoPow_zero, Nat.mul_one]

/-- The whole part is all of a number without a fractional part. -/
theorem magnitude_eq_natCast_iff {n : ℕ} : x.magnitude = n ↔ x.isIntegral = true ∧ x.wholePart = n := by
  have hd := twoPow_pos (-x.exponent).toNat
  rw [isIntegral_iff_dvd, wholePart, magnitude_eq_div, div_eq_iff (twoPow_cast_pos _).ne']
  constructor
  · intro h
    have hmul : x.mantissa * twoPow x.exponent.toNat = n * twoPow (-x.exponent).toNat := by exact_mod_cast h
    rw [hmul]
    exact ⟨Dvd.intro_left n rfl, Nat.mul_div_cancel n hd⟩
  · rintro ⟨hdvd, rfl⟩
    exact_mod_cast (Nat.div_mul_cancel hdvd).symm

theorem isIntegral_iff : x.isIntegral = true ↔ ∃ z : ℤ, x.value = z := by
  unfold value
  constructor
  · intro h
    rw [magnitude_eq_natCast_iff.2 ⟨h, rfl⟩]
    split
    · exact ⟨-x.wholePart, by push_cast; rfl⟩
    · exact ⟨x.wholePart, by push_cast; rfl⟩
  · rintro ⟨z, hz⟩
    have hmagnitude : x.magnitude = z.natAbs := by
      have hnonneg := x.magnitude_nonneg
      rw [Nat.cast_natAbs, Int.cast_abs, ← hz]
      split
      · rw [abs_neg, abs_of_nonneg hnonneg]
      · rw [abs_of_nonneg hnonneg]
    exact (magnitude_eq_natCast_iff.1 hmagnitude).1

/-- The natural numbers of the format: those without a fractional part and without a minus, and negative zero. -/
theorem value_eq_natCast_iff {n : ℕ} :
    x.value = n ↔ (x.isZero || !x.neg) = true ∧ x.isIntegral = true ∧ x.wholePart = n := by
  rw [← magnitude_eq_natCast_iff]
  unfold value isZero
  rw [Bool.or_eq_true, beq_iff_eq]
  cases x.neg with
  | false => simp
  | true =>
    simp only [if_true, Bool.not_true, Bool.false_eq_true, or_false]
    constructor
    · intro h
      have hn : (0 : ℚ) ≤ n := Nat.cast_nonneg n
      have hx := x.magnitude_nonneg
      refine ⟨?_, by linarith⟩
      by_contra hrank
      have := magnitude_pos_of_rank_pos (Nat.pos_of_ne_zero hrank)
      linarith
    · rintro ⟨hrank, h⟩
      rw [← h, magnitude_of_rank_zero hrank, neg_zero]

end Binary64

/-- The number itself, exactly. -/
def Number.value : Number → ℚ
  | natural n => (n : ℕ)
  | negative n => -((n : ℕ) + 1)
  | real x => x.value

end FieldRules
