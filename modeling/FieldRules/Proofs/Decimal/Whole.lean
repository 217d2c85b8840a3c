/-
Rounding of whole numbers. Greater ratios are not rounded to lesser numbers (`rankOfRatio_le_rankOfRatio`), and a
ratio that is a number of the format is rounded to that number, since each number covers itself. So whole numbers of
64 bits keep their order, though neighbours may fall together (`key_ofNat`), and up to `2 ^ 53` they keep their value
(`value_ofNat`).
-/
import FieldRules.Proofs.Decimal.Literal
import FieldRules.Proofs.Decimal.Value

namespace FieldRules.Binary64

/-! ## Rounding is monotone -/

section
variable {a b a' b' : ℕ}

/-- The nearest whole number is at a distance of one half at most, and even if it is one half. -/
theorem divHalfEven_near (hb : 0 < b) : (2 * divHalfEven a b - 1 : ℚ) ≤ 2 * (a / b) ∧
    (2 * (a / b) : ℚ) ≤ 2 * divHalfEven a b + 1 ∧
    ((2 * divHalfEven a b - 1 : ℚ) = 2 * (a / b) ∨ (2 * (a / b) : ℚ) = 2 * divHalfEven a b + 1 →
      divHalfEven a b % 2 = 0) := by
  have hb' : (0 : ℚ) < b := Nat.cast_pos.2 hb
  obtain ⟨n, hn⟩ : ∃ n, divHalfEven a b = n := ⟨_, rfl⟩
  have hnat : 2 * (b * n) ≤ 2 * a + b ∧ 2 * a ≤ 2 * (b * n) + b ∧
      (2 * (b * n) = 2 * a + b ∨ 2 * a = 2 * (b * n) + b → n % 2 = 0) := by
    have hdiv : b * (a / b) + a % b = a := Nat.div_add_mod a b
    have hmod : a % b < b := Nat.mod_lt a hb
    -- it is the quotient or the one above it, as the remainder says
    have hcases : n = a / b ∧ 2 * (a % b) ≤ b ∧ (2 * (a % b) = b → a / b % 2 = 0) ∨
        n = a / b + 1 ∧ b ≤ 2 * (a % b) ∧ (2 * (a % b) = b → a / b % 2 = 1) := by
      rw [← hn]
      unfold divHalfEven
      simp only
      split_ifs <;> omega
    rcases hcases with ⟨rfl, hhalf, heven⟩ | ⟨rfl, hhalf, hodd⟩
    · omega
    · rw [Nat.mul_add]
      omega
  have hcast : (2 * (a / b) : ℚ) = (2 * a : ℕ) / b := by
    push_cast
    ring
  rw [hn, hcast]
  refine ⟨?_, ?_, ?_⟩
  · rw [le_div_iff₀ hb']
    have : ((2 * (b * n) : ℕ) : ℚ) ≤ (2 * a + b : ℕ) := Nat.cast_le.2 hnat.1
    push_cast at this ⊢
    linarith
  · rw [div_le_iff₀ hb']
    have : ((2 * a : ℕ) : ℚ) ≤ (2 * (b * n) + b : ℕ) := Nat.cast_le.2 hnat.2.1
    push_cast at this ⊢
    linarith
  · rw [eq_div_iff hb'.ne', div_eq_iff hb'.ne']
    intro h
    refine hnat.2.2 (h.imp (fun h => ?_) fun h => ?_)
    · have : ((2 * (b * n) : ℕ) : ℚ) = (2 * a + b : ℕ) := by
        push_cast at h ⊢
        linarith
      exact_mod_cast this
    · have : ((2 * a : ℕ) : ℚ) = (2 * (b * n) + b : ℕ) := by
        push_cast at h ⊢
        linarith
      exact_mod_cast this

theorem divHalfEven_le_divHalfEven (hb : 0 < b) (hb' : 0 < b') (h : (a : ℚ) / b ≤ a' / b') :
    divHalfEven a b ≤ divHalfEven a' b' := by
  obtain ⟨hlower, -, heven⟩ := divHalfEven_near (a := a) hb
  obtain ⟨-, hupper, heven'⟩ := divHalfEven_near (a := a') hb'
  by_contra hlt
  -- two numbers of which the greater one is rounded down lie halfway between neighbours, which are not both even
  have hnext : (divHalfEven a' b' + 1 : ℚ) ≤ divHalfEven a b := by exact_mod_cast not_le.1 hlt
  have hmod := heven (Or.inl (by linarith))
  have hmod' := heven' (Or.inr (by linarith))
  have hsucc : (divHalfEven a b : ℚ) = (divHalfEven a' b' + 1 : ℕ) := by
    push_cast
    linarith
  have : divHalfEven a b = divHalfEven a' b' + 1 := by exact_mod_cast hsucc
  omega

end

section
variable {num den num' den' : ℕ}

/-- The quotient in units of the least exponent that is not too small for it. -/
theorem quotient_lt (hnum : 0 < num) (hden : 0 < den) {q : ℤ} (hq : floorLog2 num den - 52 ≤ q) :
    num * twoPow (-q).toNat / (den * twoPow q.toNat) < 2 ^ 53 := by
  rw [← not_le, le_scaled_div_iff hden, not_le]
  refine (floorLog2_spec hnum hden).2.trans_le (zpow_le_zpow_right₀ one_le_two ?_)
  push_cast
  omega

/-- Greater ratios are not rounded to lesser numbers. -/
theorem rankOfRatio_le_rankOfRatio (hden : 0 < den) (hden' : 0 < den') (h : (num : ℚ) / den ≤ num' / den') :
    rankOfRatio num den ≤ rankOfRatio num' den' := by
  by_cases hzero : num = 0
  · rw [hzero]
    exact Nat.zero_le _
  have hnum : 0 < num := Nat.pos_of_ne_zero hzero
  have hnum' : 0 < num' := by
    have hpos : (0 : ℚ) < num' / den' := lt_of_lt_of_le (div_pos (Nat.cast_pos.2 hnum) (Nat.cast_pos.2 hden)) h
    exact Nat.cast_pos.1 ((div_pos_iff_of_pos_right (Nat.cast_pos.2 hden')).1 hpos)
  obtain ⟨hlog, -⟩ := floorLog2_spec hnum hden
  obtain ⟨hlog₁', hlog₂'⟩ := floorLog2_spec hnum' hden'
  have hlogs : floorLog2 num den < floorLog2 num' den' + 1 := two_zpow_lt_iff.1 (hlog.trans_lt (h.trans_lt hlog₂'))
  have hlt := quotient_lt hnum hden (le_max_left (floorLog2 num den - 52) (-1074))
  unfold rankOfRatio
  rw [if_neg hzero, if_neg hnum'.ne', twoPow_eq 52]
  simp only
  obtain ⟨q, hq⟩ : ∃ q, max (floorLog2 num den - 52) (-1074) = q := ⟨_, rfl⟩
  obtain ⟨q', hq'⟩ : ∃ q', max (floorLog2 num' den' - 52) (-1074) = q' := ⟨_, rfl⟩
  rw [hq] at hlt ⊢
  rw [hq']
  by_cases hsame : q = q'
  · -- in the same unit the nearest multiples are in order
    subst hsame
    refine Nat.add_le_add_right (divHalfEven_le_divHalfEven (Nat.mul_pos hden (twoPow_pos _))
      (Nat.mul_pos hden' (twoPow_pos _)) ?_) _
    rw [scaled_ratio, scaled_ratio]
    exact div_le_div_of_nonneg_right h (two_zpow_pos q).le
  · -- otherwise a power of two lies between the two numbers
    have hge : 2 ^ 52 ≤ num' * twoPow (-q').toNat / (den' * twoPow q'.toNat) := by
      rw [le_scaled_div_iff hden']
      refine (zpow_le_zpow_right₀ one_le_two ?_).trans hlog₁'
      push_cast
      omega
    have hle := divHalfEven_le (num * twoPow (-q).toNat) (den * twoPow q.toNat)
    have hge' := div_le_divHalfEven (num' * twoPow (-q').toNat) (den' * twoPow q'.toNat)
    omega

end

/-! ## Whole numbers of 64 bits -/

section
variable {m n : ℕ}

/-- Whole numbers of 64 bits lie well below the greatest number of the format. -/
theorem ofRatio_natCast (neg : Bool) (hn : n ≤ 2 ^ 64) : ofRatio neg n 1 = some (ofNat neg n) := by
  have hsome : ofRatio neg n 1 ≠ none := by
    by_cases hzero : n = 0
    · rw [hzero]
      exact Option.some_ne_none (zero neg)
    · rw [ne_eq, ofRatio_eq_none_iff (Nat.pos_of_ne_zero hzero) Nat.one_pos, not_le, Nat.cast_one, div_one]
      calc (n : ℚ) ≤ 2 ^ (64 : ℤ) := by exact_mod_cast hn
        _ < 2 ^ (1023 : ℤ) := two_zpow_lt_iff.2 (by norm_num)
        _ ≤ overflow := two_zpow_le_overflow
  obtain ⟨x, hx⟩ := Option.ne_none_iff_exists'.1 hsome
  rw [ofNat, hx]
  rfl

theorem key_ofNat (neg : Bool) (hn : n ≤ 2 ^ 64) :
    (ofNat neg n).key = if neg then -(rankOfRatio n 1 : ℤ) else rankOfRatio n 1 := by
  have hround := ofRatio_natCast neg hn
  unfold ofRatio at hround
  simp only [Option.dite_none_right_eq_some, Option.some.injEq] at hround
  obtain ⟨hlt, hround⟩ := hround
  rw [← hround]
  rfl

theorem rankOfRatio_natCast_le (h : m ≤ n) : rankOfRatio m 1 ≤ rankOfRatio n 1 :=
  rankOfRatio_le_rankOfRatio Nat.one_pos Nat.one_pos (by
    rw [Nat.cast_one, div_one, div_one]
    exact Nat.cast_le.2 h)

/-! ## Exact whole numbers -/

/-- A number is in its own interval. -/
theorem covers_magnitude (x : Binary64) : x.Covers x.magnitude := by
  have hu := x.quarter_pos
  have hbelow := x.one_le_below
  rw [magnitude_eq]
  exact ⟨Or.inl (mul_lt_mul_of_pos_right (by linarith) hu), Or.inl (mul_lt_mul_of_pos_right (by linarith) hu)⟩

/-- With a leading bit of its own, a multiple of a unit of the format is a number of the format. -/
theorem exists_magnitude_eq (neg : Bool) {q : ℤ} (hq : -1074 ≤ q) (hq' : q ≤ 971) (hm : 2 ^ 52 ≤ m) (hm' : m < 2 ^ 53) :
    ∃ x : Binary64, x.neg = neg ∧ x.magnitude = m * 2 ^ q := by
  have hlt : m + (q + 1074).toNat * 2 ^ 52 < 2047 * twoPow 52 := by
    rw [twoPow_eq]
    omega
  refine ⟨⟨neg, _, hlt⟩, rfl, ?_⟩
  have hparts := parts ⟨neg, _, hlt⟩
  simp only at hparts
  have hmantissa : mantissa ⟨neg, _, hlt⟩ = m := by omega
  have hexponent : exponent ⟨neg, _, hlt⟩ = q := by omega
  rw [magnitude, hmantissa, hexponent]

/-- Up to `2 ^ 53` whole numbers are numbers of the format. -/
theorem exists_magnitude_eq_natCast (neg : Bool) (hn : n ≤ 2 ^ 53) :
    ∃ x : Binary64, x.neg = neg ∧ x.magnitude = n := by
  rcases Nat.eq_zero_or_pos n with rfl | hpos
  · exact ⟨zero neg, rfl, magnitude_of_rank_zero rfl⟩
  · rcases hn.eq_or_lt with rfl | hlt
    · obtain ⟨x, hneg, hx⟩ := exists_magnitude_eq (m := 2 ^ 52) neg (q := 1) (by norm_num) (by norm_num) le_rfl
        (by norm_num)
      exact ⟨x, hneg, by rw [hx]; norm_num⟩
    · -- the multiple has as many zeros behind the number as make its leading bit the greatest
      have hlog : n.log2 < 53 := (Nat.log2_lt hpos.ne').2 hlt
      have hsplit : 2 ^ 52 = 2 ^ n.log2 * 2 ^ (52 - n.log2) := by
        rw [← pow_add]
        congr 1
        omega
      have hle : 2 ^ 52 ≤ n * 2 ^ (52 - n.log2) := by
        rw [hsplit]
        exact Nat.mul_le_mul_right _ (Nat.log2_self_le hpos.ne')
      have hlt : n * 2 ^ (52 - n.log2) < 2 ^ 53 := by
        have hupper : n * 2 ^ (52 - n.log2) < 2 ^ (n.log2 + 1) * 2 ^ (52 - n.log2) :=
          Nat.mul_lt_mul_of_pos_right Nat.lt_log2_self (Nat.two_pow_pos _)
        rw [pow_succ, mul_right_comm, ← hsplit] at hupper
        exact hupper
      obtain ⟨x, hneg, hx⟩ := exists_magnitude_eq neg (q := n.log2 - 52) (by omega) (by omega) hle hlt
      refine ⟨x, hneg, ?_⟩
      rw [hx, show (n.log2 - 52 : ℤ) = -((52 - n.log2 : ℕ) : ℤ) by omega, zpow_neg, zpow_natCast]
      push_cast
      exact mul_inv_cancel_right₀ (by positivity) _

/-- Up to `2 ^ 53` a whole number is rounded to itself. -/
theorem value_ofNat (neg : Bool) (hn : n ≤ 2 ^ 53) : (ofNat neg n).value = if neg then -(n : ℚ) else n := by
  obtain ⟨x, rfl, hx⟩ := exists_magnitude_eq_natCast neg hn
  rcases Nat.eq_zero_or_pos n with rfl | hpos
  · rw [show ofNat x.neg 0 = zero x.neg from rfl, value_of_rank_zero rfl, Nat.cast_zero, neg_zero, ite_self]
  · have hcovers : x.Covers (n / (1 : ℕ)) := by
      rw [Nat.cast_one, div_one, ← hx]
      exact x.covers_magnitude
    rw [ofNat, ofRatio_eq hpos Nat.one_pos hcovers, Option.getD_some, value, hx]

end

end FieldRules.Binary64
