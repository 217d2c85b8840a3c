/-
The shortest decimal of a number is one that the number covers (`shortest_covers`), so rounding it gives the
number back. A grid is searched at its two places around the number, and the grid of seventeen digits is finer
than the interval of any number, so the search always ends with a hit.
-/
import FieldRules.Proofs.Decimal.Rounding

namespace FieldRules.Binary64

variable {x : Binary64}

/-! ## Exact comparisons -/

theorem compareDecimal_eq_cmp (c : ℕ) (p : ℤ) (m : ℕ) (e : ℤ) :
    compareDecimal c p m e = cmp ((c : ℚ) * 10 ^ p) (m * 2 ^ e) := by
  have hden : (0 : ℚ) < tenPow (-p).toNat * twoPow (-e).toNat := mul_pos (tenPow_cast_pos _) (twoPow_cast_pos _)
  rw [compareDecimal, ← cmp_eq_compare, ← (Nat.strictMono_cast (α := ℚ)).cmp_map_eq, ← cmp_mul_pos_right hden ((c : ℚ) * 10 ^ p)]
  congr 1
  · push_cast
    rw [tenPow_toNat p]
    ring
  · push_cast
    rw [twoPow_toNat e]
    ring

theorem roundsTo_iff (hm : x.mantissa ≠ 0) (c : ℕ) (p : ℤ) : x.roundsTo c p = true ↔ x.Covers (c * 10 ^ p) := by
  have hbelow : ((4 * x.mantissa - x.below : ℕ) : ℚ) = 4 * x.mantissa - x.below := by
    have : x.below ≤ 2 := by exact_mod_cast x.below_le
    rw [Nat.cast_sub (by omega)]
    push_cast
    rfl
  have habove : ((4 * x.mantissa + 2 : ℕ) : ℚ) = 4 * x.mantissa + 2 := by
    push_cast
    rfl
  have hlower : compareDecimal c p (4 * x.mantissa - x.below) (x.exponent - 2) =
      cmp ((c : ℚ) * 10 ^ p) ((4 * x.mantissa - x.below) * x.quarter) := by
    rw [compareDecimal_eq_cmp, hbelow]
    rfl
  have hupper : compareDecimal c p (4 * x.mantissa + 2) (x.exponent - 2) =
      cmp ((c : ℚ) * 10 ^ p) ((4 * x.mantissa + 2) * x.quarter) := by
    rw [compareDecimal_eq_cmp, habove]
    rfl
  have hiff : x.roundsTo c p = true ↔
      (cmp ((c : ℚ) * 10 ^ p) ((4 * x.mantissa - x.below) * x.quarter) = .gt ∨
        x.mantissa % 2 = 0 ∧ cmp ((c : ℚ) * 10 ^ p) ((4 * x.mantissa - x.below) * x.quarter) = .eq) ∧
      (cmp ((c : ℚ) * 10 ^ p) ((4 * x.mantissa + 2) * x.quarter) = .lt ∨
        x.mantissa % 2 = 0 ∧ cmp ((c : ℚ) * 10 ^ p) ((4 * x.mantissa + 2) * x.quarter) = .eq) := by
    rw [← hlower, ← hupper]
    unfold roundsTo
    simp only [Bool.and_eq_true, Bool.or_eq_true, beq_iff_eq]
    rfl
  rw [hiff, cmp_eq_gt_iff, cmp_eq_eq_iff, cmp_eq_lt_iff, cmp_eq_eq_iff]
  constructor
  · rintro ⟨hl, hu⟩
    exact ⟨hl.imp_right (And.imp_right Eq.symm), hu⟩
  · rintro ⟨hl, hu⟩
    exact ⟨hl.imp_right (And.imp_right Eq.symm), hu⟩

/-! ## Grids -/

/-- A hit on a grid rounds to the number. -/
theorem roundsTo_of_onGrid? {p p' : ℤ} {c : ℕ} (h : x.onGrid? p = some (c, p')) : x.roundsTo c p' = true := by
  unfold onGrid? at h
  simp only at h
  split at h
  · next hlow hhigh =>
    split at h
    · cases h
      exact hlow
    · cases h
      exact hhigh
    · -- of two hits equally near, the even one is the lower or the upper one
      cases h
      rcases Nat.mod_two_eq_zero_or_one (x.mantissa * twoPow x.exponent.toNat * tenPow (-p).toNat /
        (twoPow (-x.exponent).toNat * tenPow p.toNat)) with heven | hodd
      · rw [heven]
        exact hlow
      · rw [hodd]
        exact hhigh
  · next hlow _ =>
    cases h
    exact hlow
  · next hhigh =>
    cases h
    exact hhigh
  · cases h

/-- The two places of a grid around the number. -/
theorem grid_around (x : Binary64) (p : ℤ) : ∃ c : ℕ,
    c = x.mantissa * twoPow x.exponent.toNat * tenPow (-p).toNat / (twoPow (-x.exponent).toNat * tenPow p.toNat) ∧
      (c : ℚ) * 10 ^ p ≤ x.magnitude ∧ x.magnitude < ((c + 1 : ℕ) : ℚ) * 10 ^ p := by
  obtain ⟨a, ha⟩ : ∃ a, a = x.mantissa * twoPow x.exponent.toNat * tenPow (-p).toNat := ⟨_, rfl⟩
  obtain ⟨b, hb⟩ : ∃ b, b = twoPow (-x.exponent).toNat * tenPow p.toNat := ⟨_, rfl⟩
  have hpos : 0 < b := hb ▸ Nat.mul_pos (twoPow_pos _) (tenPow_pos _)
  have hb' : (0 : ℚ) < b := Nat.cast_pos.2 hpos
  have hratio : x.magnitude * b = a * 10 ^ p := by
    rw [ha, hb, magnitude]
    push_cast
    rw [twoPow_toNat x.exponent, tenPow_toNat p]
    ring
  have hle : ((a / b * b : ℕ) : ℚ) ≤ a := Nat.cast_le.2 (Nat.div_mul_le_self a b)
  have hlt : (a : ℚ) < ((a / b + 1) * b : ℕ) := Nat.cast_lt.2 (by rw [mul_comm]; exact Nat.lt_mul_div_succ a hpos)
  have hten := ten_zpow_pos p
  rw [← ha, ← hb]
  refine ⟨a / b, rfl, ?_, ?_⟩
  · refine le_of_mul_le_mul_right ?_ hb'
    rw [hratio, mul_right_comm, ← Nat.cast_mul]
    exact mul_le_mul_of_nonneg_right hle hten.le
  · refine lt_of_mul_lt_mul_right ?_ hb'.le
    rw [hratio, mul_right_comm, ← Nat.cast_mul]
    exact mul_lt_mul_of_pos_right hlt hten

/-- A grid of seventeen digits or more has a place in the interval of the number. -/
theorem onGrid?_isSome (hm : x.mantissa ≠ 0) {p : ℤ} (hp : (10 : ℚ) ^ p * 10 ^ 16 ≤ x.magnitude) :
    (x.onGrid? p).isSome := by
  obtain ⟨c, hc, hle, hlt⟩ := x.grid_around p
  have hu := x.quarter_pos
  have hone := x.one_le_below
  rw [magnitude_eq] at hle hlt hp
  -- otherwise both places lie outside of the interval, which is then no wider than the grid
  by_contra hnone
  have hmiss : x.roundsTo c p = false ∧ x.roundsTo (c + 1) p = false := by
    unfold onGrid? at hnone
    simp only [← hc] at hnone
    cases hlow : x.roundsTo c p <;> cases hhigh : x.roundsTo (c + 1) p
    · exact ⟨rfl, rfl⟩
    · simp [hlow, hhigh] at hnone
    · simp [hlow, hhigh] at hnone
    · simp only [hlow, hhigh] at hnone
      split at hnone <;> exact (hnone rfl).elim
  have hlow : (c : ℚ) * 10 ^ p ≤ (4 * x.mantissa - x.below) * x.quarter := by
    by_contra hin
    have hcovers : x.Covers (c * 10 ^ p) := ⟨Or.inl (not_le.1 hin), Or.inl (by nlinarith)⟩
    rw [← roundsTo_iff hm, hmiss.1] at hcovers
    cases hcovers
  have hhigh : (4 * x.mantissa + 2) * x.quarter ≤ ((c + 1 : ℕ) : ℚ) * 10 ^ p := by
    by_contra hin
    have hcovers : x.Covers ((c + 1 : ℕ) * 10 ^ p) := ⟨Or.inl (by nlinarith), Or.inl (not_le.1 hin)⟩
    rw [← roundsTo_iff hm, hmiss.2] at hcovers
    cases hcovers
  -- but seventeen digits tell any two neighbours apart
  have hwidth : (x.below + 2) * x.quarter ≤ 10 ^ p := by
    push_cast at hhigh
    linarith
  have hfine : ((x.below : ℚ) + 2) * 10 ^ 16 ≤ 4 * x.mantissa := by
    refine le_of_mul_le_mul_right ?_ hu
    linarith
  by_cases hpower : x.mantissa = twoPow 52 ∧ -1074 < x.exponent
  · rw [hpower.1, twoPow_eq] at hfine
    norm_num at hfine
    linarith
  · rw [below, if_neg hpower] at hfine
    have hlt := x.mantissa_lt
    have : (2 + 2) * 10 ^ 16 ≤ 4 * x.mantissa := by exact_mod_cast hfine
    omega

/-! ## The power of ten below a number -/

/-- Exponents of ten and of two compare by their multiples in a common power. -/
theorem ten_zpow_le_of_base {a b : ℕ} {g l : ℤ} (ha : a ≠ 0) (hbase : ((10 : ℚ) ^ b) ^ l ≤ (2 ^ a) ^ l)
    (h : a * g ≤ b * l) : (10 : ℚ) ^ g ≤ 2 ^ l := by
  refine (pow_le_pow_iff_left₀ (ten_zpow_pos g).le (two_zpow_pos l).le ha).1 ?_
  calc ((10 : ℚ) ^ g) ^ a = 10 ^ (a * g) := by rw [← zpow_natCast, ← zpow_mul, mul_comm]
    _ ≤ 10 ^ (b * l) := zpow_le_zpow_right₀ (by norm_num) h
    _ = (10 ^ b) ^ l := by rw [zpow_mul, zpow_natCast]
    _ ≤ (2 ^ a) ^ l := hbase
    _ = (2 ^ l) ^ a := by rw [← zpow_natCast, ← zpow_natCast, ← zpow_mul, ← zpow_mul, mul_comm]

/-- The quotients `59 / 196` and `28 / 93` bound the logarithm of two from below and from above, and are as good
as the quotient that guesses are made with. -/
theorem ten_zpow_pred_le {g l : ℤ} (hlow : -1100 ≤ l) (hhigh : l ≤ 1100) (h : 100000 * g ≤ 30103 * l) :
    (10 : ℚ) ^ (g - 1) ≤ 2 ^ l := by
  rcases le_total 0 l with hl | hl
  · have hbase : (10 : ℚ) ^ 59 ≤ 2 ^ 196 := by norm_num
    refine ten_zpow_le_of_base (a := 196) (b := 59) (by norm_num) ?_ (by push_cast; omega)
    exact zpow_le_zpow_left₀ hl (by positivity) hbase
  · have hbase : (2 : ℚ) ^ 93 ≤ 10 ^ 28 := by norm_num
    refine ten_zpow_le_of_base (a := 93) (b := 28) (by norm_num) ?_ (by push_cast; omega)
    obtain ⟨k, rfl⟩ : ∃ k : ℕ, l = -k := ⟨l.natAbs, by omega⟩
    rw [zpow_neg, zpow_neg, zpow_natCast, zpow_natCast]
    exact inv_anti₀ (by positivity) (by gcongr)

theorem magnitude_lt (x : Binary64) : x.magnitude < 2 ^ (1024 : ℤ) :=
  calc x.magnitude < 2 ^ (x.exponent + 53) := x.magnitude_lt_two_zpow
    _ ≤ 2 ^ (1024 : ℤ) := zpow_le_zpow_right₀ one_le_two (by have := x.exponent_le; omega)

theorem le_magnitude (hm : x.mantissa ≠ 0) : (2 : ℚ) ^ (-1074 : ℤ) ≤ x.magnitude := by
  have hm' : (1 : ℚ) ≤ x.mantissa := by exact_mod_cast Nat.one_le_iff_ne_zero.2 hm
  calc (2 : ℚ) ^ (-1074 : ℤ) ≤ 2 ^ x.exponent := zpow_le_zpow_right₀ one_le_two x.le_exponent
    _ ≤ x.magnitude := le_mul_of_one_le_left (two_zpow_pos _).le hm'

theorem compareDecimal_one_iff (p : ℤ) :
    (compareDecimal 1 p x.mantissa x.exponent != .gt) = true ↔ (10 : ℚ) ^ p ≤ x.magnitude := by
  rw [compareDecimal_eq_cmp, bne_iff_ne, ne_eq, cmp_eq_gt_iff, not_lt, Nat.cast_one, one_mul]
  rfl

theorem ten_zpow_floorLog10_le (hm : x.mantissa ≠ 0) : (10 : ℚ) ^ x.floorLog10 ≤ x.magnitude := by
  unfold floorLog10
  simp only [compareDecimal_one_iff]
  have hnum : 0 < x.mantissa * twoPow x.exponent.toNat := Nat.mul_pos (Nat.pos_of_ne_zero hm) (twoPow_pos _)
  obtain ⟨hle, hlt⟩ := floorLog2_spec hnum (twoPow_pos (-x.exponent).toNat)
  rw [← magnitude_eq_div] at hle hlt
  obtain ⟨l, hl⟩ : ∃ l, floorLog2 (x.mantissa * twoPow x.exponent.toNat) (twoPow (-x.exponent).toNat) = l := ⟨_, rfl⟩
  rw [hl] at hle hlt ⊢
  split
  · assumption
  · split
    · assumption
    · -- the guess is too great by one at most, as the exponents of the format are small
      have hlow := two_zpow_lt_iff.1 ((le_magnitude hm).trans_lt hlt)
      have hhigh := two_zpow_lt_iff.1 (hle.trans_lt x.magnitude_lt)
      rw [Int.fdiv_eq_ediv_of_nonneg _ (by norm_num)]
      exact (ten_zpow_pred_le (by omega) (by omega) (by omega)).trans hle

/-! ## The shortest decimal -/

theorem stripZeros_value (fuel c : ℕ) (p : ℤ) :
    ((stripZeros fuel c p).1 : ℚ) * 10 ^ (stripZeros fuel c p).2 = c * 10 ^ p := by
  induction fuel generalizing c p with
  | zero => rfl
  | succ fuel ih =>
    rw [stripZeros]
    split
    · next h =>
      have hc : c = c / 10 * 10 := by omega
      rw [ih, zpow_add_one₀ (by norm_num)]
      conv_rhs => rw [hc]
      push_cast
      ring
    · rfl

/-- A hit is found, at the latest among the decimals of seventeen digits. -/
theorem exists_onGrid? (hm : x.mantissa ≠ 0) : ∃ r,
    (List.range 17).findSome? (fun k => x.onGrid? (x.floorLog10 - (k : ℕ))) = some r := by
  refine Option.isSome_iff_exists.1 (List.findSome?_isSome_iff.2 ⟨16, by decide, onGrid?_isSome hm ?_⟩)
  refine le_of_eq_of_le ?_ (ten_zpow_floorLog10_le hm)
  rw [← zpow_natCast, ← zpow_add₀ (by norm_num)]
  congr 1
  omega

/-- The shortest decimal lies in the interval of the number. -/
theorem shortest_covers (hm : x.mantissa ≠ 0) : x.Covers (x.shortest.1 * 10 ^ x.shortest.2) := by
  obtain ⟨⟨c, p⟩, hfound⟩ := exists_onGrid? hm
  obtain ⟨k, -, hk⟩ := List.exists_of_findSome?_eq_some hfound
  unfold shortest
  rw [if_neg hm]
  simp only [hfound]
  rw [stripZeros_value]
  exact (roundsTo_iff hm c p).1 (roundsTo_of_onGrid? hk)

theorem shortest_of_zero (hm : x.mantissa = 0) : x.shortest = (0, 0) :=
  if_pos hm

end FieldRules.Binary64
