/-
Which texts spell numbers. A decimal literal has a sign that may be left out, digits with at most one point among
them, and perhaps a power of ten (`Decimal.Literal`); the reader takes these texts and no others, each for its value
(`literal?_eq_some_iff`). A literal is a number of the binary format unless it lies so far out that it would be
rounded beyond the greatest one (`ofDecimal_eq_none_iff`). So a text spells a number exactly when, without the
blanks around it, it is a literal that is not too great (`number?_isSome_iff`); words for infinities and for what is
no number do not, and neither do blanks.
-/
import FieldRules.Proofs.Json.Numeral
import Mathlib.Data.List.TakeWhile

namespace FieldRules

/-! ## Too great decimals -/

namespace Binary64

/-- The halfway point behind the greatest number: from here on there is nothing to round to. -/
def overflow : ℚ :=
  2 ^ (1024 : ℤ) - 2 ^ (970 : ℤ)

theorem overflow_eq : overflow = (2 ^ 54 - 1) * 2 ^ (970 : ℤ) := by
  rw [overflow, show (1024 : ℤ) = 970 + (54 : ℕ) from rfl, two_zpow_add]
  ring

theorem two_zpow_le_overflow : (2 : ℚ) ^ (1023 : ℤ) ≤ overflow := by
  rw [overflow_eq, show (1023 : ℤ) = 970 + (53 : ℕ) from rfl, two_zpow_add, mul_comm]
  exact mul_le_mul_of_nonneg_right (by norm_num) (two_zpow_pos _).le

theorem overflow_le_two_zpow : overflow ≤ (2 : ℚ) ^ (1024 : ℤ) :=
  sub_le_self _ (two_zpow_pos _).le

section
variable {a b m : ℕ}

theorem div_le_divHalfEven (a b : ℕ) : a / b ≤ divHalfEven a b := by
  unfold divHalfEven
  simp only
  split_ifs <;> omega

theorem divHalfEven_le (a b : ℕ) : divHalfEven a b ≤ a / b + 1 := by
  unfold divHalfEven
  simp only
  split_ifs <;> omega

/-- What is rounded to less than an even number lies below the halfway point in front of that number. -/
theorem divHalfEven_lt_iff (hb : 0 < b) (hm : m % 2 = 0) : divHalfEven a b < m ↔ 2 * (a / b : ℚ) + 1 < 2 * m := by
  have hb' : (0 : ℚ) < b := Nat.cast_pos.2 hb
  have hcast : 2 * (a / b : ℚ) + 1 < 2 * m ↔ 2 * a + b < 2 * (m * b) := by
    rw [← mul_lt_mul_iff_of_pos_right hb', add_mul, mul_assoc, div_mul_cancel₀ _ hb'.ne', one_mul, mul_assoc]
    exact_mod_cast Iff.rfl
  rw [hcast]
  have hge := div_le_divHalfEven a b
  have hle := divHalfEven_le a b
  have hdiv : b * (a / b) + a % b = a := Nat.div_add_mod a b
  have hmod : a % b < b := Nat.mod_lt a hb
  rw [Nat.mul_comm m b]
  rcases lt_trichotomy (a / b + 1) m with hlt | heq | hgt
  · have : b * (a / b + 2) ≤ b * m := Nat.mul_le_mul_left b (by omega)
    rw [Nat.mul_add] at this
    omega
  · -- the quotient is odd, so a tie goes up
    have : b * (a / b + 1) = b * m := by rw [heq]
    rw [Nat.mul_add] at this
    unfold divHalfEven
    simp only
    split_ifs <;> omega
  · have : b * m ≤ b * (a / b) := Nat.mul_le_mul_left b (by omega)
    omega

end

section
variable {num den : ℕ}

theorem le_scaled_div_iff (hden : 0 < den) (k : ℕ) (q : ℤ) :
    2 ^ k ≤ num * twoPow (-q).toNat / (den * twoPow q.toNat) ↔ (2 : ℚ) ^ (q + k) ≤ num / den := by
  have hB : 0 < den * twoPow q.toNat := Nat.mul_pos hden (twoPow_pos _)
  have hB' : (0 : ℚ) < (den * twoPow q.toNat : ℕ) := Nat.cast_pos.2 hB
  rw [Nat.le_div_iff_mul_le hB, ← Nat.cast_le (α := ℚ), Nat.cast_mul, ← le_div_iff₀ hB', scaled_ratio,
    le_div_iff₀ (two_zpow_pos q), two_zpow_add, mul_comm, Nat.cast_pow, Nat.cast_ofNat]

/-- The ranks of the format are those of the ratios in front of the halfway point behind the greatest number. -/
theorem rankOfRatio_lt_iff (hnum : 0 < num) (hden : 0 < den) :
    rankOfRatio num den < 2047 * twoPow 52 ↔ (num : ℚ) / den < overflow := by
  obtain ⟨hlog, hlog'⟩ := floorLog2_spec hnum hden
  unfold rankOfRatio
  rw [if_neg hnum.ne', twoPow_eq]
  simp only
  generalize floorLog2 num den = l at hlog hlog'
  obtain ⟨q, hq⟩ : ∃ q, max (l - 52) (-1074) = q := ⟨_, rfl⟩
  rw [hq]
  have hge := div_le_divHalfEven (num * twoPow (-q).toNat) (den * twoPow q.toNat)
  have hle := divHalfEven_le (num * twoPow (-q).toNat) (den * twoPow q.toNat)
  -- the greatest exponent of the format is the only one at which the last digits decide
  rcases lt_trichotomy l 1023 with hlt | rfl | hgt
  · have hquotient : num * twoPow (-q).toNat / (den * twoPow q.toNat) < 2 ^ 53 := by
      rw [← not_le, le_scaled_div_iff hden, not_le]
      exact hlog'.trans_le (zpow_le_zpow_right₀ one_le_two (by push_cast; omega))
    refine iff_of_true (by omega) (lt_of_lt_of_le (hlog'.trans_le ?_) two_zpow_le_overflow)
    exact zpow_le_zpow_right₀ one_le_two (by omega)
  · -- at the greatest exponent the rank is rounded up to the end of the format from the halfway point on
    obtain rfl : q = 971 := by omega
    have hrank : divHalfEven (num * twoPow (-971 : ℤ).toNat) (den * twoPow (971 : ℤ).toNat) < 2 ^ 53 ↔
        (num : ℚ) / den < overflow := by
      rw [divHalfEven_lt_iff (Nat.mul_pos hden (twoPow_pos _)) (by norm_num), scaled_ratio, overflow_eq,
        ← div_lt_iff₀ (two_zpow_pos 970), show (971 : ℤ) = 970 + (1 : ℕ) from rfl, two_zpow_add, ← div_div]
      generalize (num : ℚ) / den / 2 ^ (970 : ℤ) = w
      push_cast
      constructor
      · intro h
        linarith
      · intro h
        linarith
    rw [← hrank, show ((971 : ℤ) + 1074).toNat = 2045 from rfl]
    omega
  · have hquotient : 2 ^ 52 ≤ num * twoPow (-q).toNat / (den * twoPow q.toNat) := by
      rw [le_scaled_div_iff hden]
      refine le_trans (zpow_le_zpow_right₀ one_le_two ?_) hlog
      push_cast
      omega
    refine iff_of_false (by omega) (not_lt.2 (overflow_le_two_zpow.trans (le_trans ?_ hlog)))
    exact zpow_le_zpow_right₀ one_le_two (by omega)

theorem ofRatio_eq_none_iff (hnum : 0 < num) (hden : 0 < den) (neg : Bool) :
    ofRatio neg num den = none ↔ overflow ≤ (num : ℚ) / den := by
  rw [← not_lt, ← rankOfRatio_lt_iff hnum hden]
  unfold ofRatio
  simp

end

/-- A decimal is no number of the format exactly when it is too great for it; the bounds on its size, which save
the computation of its power, lie beyond the format on both sides. -/
theorem ofDecimal_eq_none_iff (neg : Bool) (n : ℕ) (e : ℤ) :
    ofDecimal neg n e = none ↔ overflow ≤ (n : ℚ) * 10 ^ e := by
  have hoverflow : 0 < overflow := (two_zpow_pos _).trans_le two_zpow_le_overflow
  unfold ofDecimal
  simp only
  split
  · next h =>
    refine iff_of_false (by simp) (not_le.2 ?_)
    rcases h with rfl | hsmall
    · rw [Nat.cast_zero, zero_mul]
      exact hoverflow
    · calc (n : ℚ) * 10 ^ e < 10 ^ (e + digitCount n) := decimal_lt n e
        _ ≤ 10 ^ (0 : ℤ) := zpow_le_zpow_right₀ (by norm_num) (by omega)
        _ = 2 ^ (0 : ℤ) := rfl
        _ ≤ 2 ^ (1023 : ℤ) := zpow_le_zpow_right₀ one_le_two (by norm_num)
        _ ≤ overflow := two_zpow_le_overflow
  · next h =>
    rw [not_or] at h
    split
    · next hgreat =>
      refine iff_of_true rfl ?_
      calc overflow ≤ 2 ^ (1024 : ℤ) := overflow_le_two_zpow
        _ ≤ 10 ^ (309 : ℤ) := two_zpow_lt_ten_zpow.le
        _ ≤ 10 ^ (e + digitCount n - 1) := zpow_le_zpow_right₀ (by norm_num) (by omega)
        _ ≤ n * 10 ^ e := le_decimal h.1 e
    · rw [ofRatio_eq_none_iff (Nat.mul_pos (Nat.pos_of_ne_zero h.1) (tenPow_pos _)) (tenPow_pos _), decimal_ratio]

end Binary64

/-! ## Decimal literals -/

namespace Decimal

/-- A sign, or none. -/
def IsSign (s : List Char) : Prop :=
  s = [] ∨ s = ['+'] ∨ s = ['-']

/-- A power of ten as it is written. -/
structure LiteralPower where
  mark : Char
  sign : List Char
  digits : List Char
  mark_eq : mark = 'e' ∨ mark = 'E'
  isSign : IsSign sign
  digits_ne : digits ≠ []
  isDigit : ∀ c ∈ digits, c.isDigit = true

/-- A decimal number as it is written. At least one digit stands before the power, on either side of the point. -/
structure Literal where
  sign : List Char
  whole : List Char
  /-- The digits behind the point, if there is a point. -/
  fraction : Option (List Char)
  power : Option LiteralPower
  isSign : IsSign sign
  digits_ne : whole ++ fraction.getD [] ≠ []
  isDigit : ∀ c ∈ whole ++ fraction.getD [], c.isDigit = true

def LiteralPower.chars (p : LiteralPower) : List Char :=
  p.mark :: (p.sign ++ p.digits)

def LiteralPower.value (p : LiteralPower) : Int :=
  if p.sign = ['-'] then -(digitsValue p.digits : Int) else digitsValue p.digits

namespace Literal

def fractionChars (l : Literal) : List Char :=
  l.fraction.elim [] fun ds => '.' :: ds

def powerChars (l : Literal) : List Char :=
  l.power.elim [] LiteralPower.chars

/-- The literal without its sign. -/
def body (l : Literal) : List Char :=
  l.whole ++ (l.fractionChars ++ l.powerChars)

def chars (l : Literal) : List Char :=
  l.sign ++ l.body

def neg (l : Literal) : Bool :=
  l.sign == ['-']

def coefficient (l : Literal) : Nat :=
  digitsValue (l.whole ++ l.fraction.getD [])

def exponent (l : Literal) : Int :=
  l.power.elim 0 LiteralPower.value - (l.fraction.getD []).length

/-- The literal without its sign, exactly. -/
def magnitude (l : Literal) : ℚ :=
  l.coefficient * 10 ^ l.exponent

end Literal

/-! ## Signs and powers -/

variable {s cs : List Char}

theorem sign_append (hs : IsSign s) (hcs : ∀ c ∈ cs.head?, c ≠ '+' ∧ c ≠ '-') : sign (s ++ cs) = (s == ['-'], cs) := by
  rcases hs with rfl | rfl | rfl
  · rw [List.nil_append]
    unfold sign
    split
    · exact absurd rfl (hcs '-' rfl).2
    · exact absurd rfl (hcs '+' rfl).1
    · rfl
  · rfl
  · rfl

theorem exists_isSign (cs : List Char) : ∃ s, IsSign s ∧ s ++ (sign cs).2 = cs ∧ (sign cs).1 = (s == ['-']) := by
  unfold sign
  split
  · exact ⟨['-'], Or.inr (Or.inr rfl), rfl, rfl⟩
  · exact ⟨['+'], Or.inr (Or.inl rfl), rfl, rfl⟩
  · exact ⟨[], Or.inl rfl, rfl, rfl⟩

/-- Neither a digit nor the point is a sign. -/
theorem not_sign_of_isDigit {c : Char} (h : c.isDigit = true ∨ c = '.') : c ≠ '+' ∧ c ≠ '-' := by
  constructor
  · rintro rfl
    revert h
    decide
  · rintro rfl
    revert h
    decide

theorem power?_chars (p : LiteralPower) : power? p.chars = some p.value := by
  have hhead : ∀ c ∈ p.digits.head?, c ≠ '+' ∧ c ≠ '-' := fun c hc =>
    not_sign_of_isDigit (Or.inl (p.isDigit c (List.mem_of_mem_head? hc)))
  have hdigits : (p.digits.isEmpty || !p.digits.all Char.isDigit) = false := by
    rw [Bool.or_eq_false_iff, List.isEmpty_eq_false_iff, Bool.not_eq_false', List.all_eq_true]
    exact ⟨p.digits_ne, p.isDigit⟩
  unfold power? LiteralPower.chars LiteralPower.value
  simp only [if_pos p.mark_eq, sign_append p.isSign hhead, hdigits, beq_iff_eq, Bool.false_eq_true, if_false]

theorem exists_power {e : Int} (h : power? cs = some e) :
    ∃ p : Option LiteralPower, p.elim [] LiteralPower.chars = cs ∧ p.elim 0 LiteralPower.value = e := by
  unfold power? at h
  split at h
  · cases h
    exact ⟨none, rfl, rfl⟩
  · next c rest =>
    obtain ⟨s, hs, hrest, hneg⟩ := exists_isSign rest
    split at h
    · next hmark =>
      simp only [hneg, beq_iff_eq] at h
      split at h
      · cases h
      · next hdigits =>
        rw [Bool.not_eq_true, Bool.or_eq_false_iff, List.isEmpty_eq_false_iff, Bool.not_eq_false',
          List.all_eq_true] at hdigits
        refine ⟨some ⟨c, s, (sign rest).2, hmark, hs, hdigits.1, hdigits.2⟩, ?_, Option.some.inj h⟩
        exact congrArg (c :: ·) hrest
    · cases h

/-! ## Reading literals -/

namespace Literal

open Json.Cursor

/-- A literal begins with a digit or with the point, its sign aside. -/
theorem exists_body (l : Literal) : ∃ c rest, l.body = c :: rest ∧ (c.isDigit = true ∨ c = '.') := by
  unfold body fractionChars
  cases hwhole : l.whole with
  | cons c whole => exact ⟨c, _, rfl, Or.inl (l.isDigit c (by rw [hwhole]; exact List.mem_cons_self))⟩
  | nil =>
    cases hfraction : l.fraction with
    | some ds => exact ⟨'.', _, rfl, Or.inr rfl⟩
    | none => exact absurd (by rw [hwhole, hfraction]; rfl) l.digits_ne

theorem sign_chars (l : Literal) : Decimal.sign l.chars = (l.neg, l.body) := by
  obtain ⟨c, rest, hbody, hc⟩ := l.exists_body
  refine sign_append l.isSign fun d hd => ?_
  rw [hbody] at hd
  cases hd
  exact not_sign_of_isDigit hc

/-- Neither the point nor the mark of a power is a digit. -/
theorem stops_powerChars (l : Literal) : Stops Char.isDigit l.powerChars := by
  unfold powerChars
  cases l.power with
  | none => intro c hc; cases hc
  | some p => exact .cons (by rcases p.mark_eq with h | h <;> rw [h] <;> rfl) _

theorem stops_fractionChars (l : Literal) : Stops Char.isDigit (l.fractionChars ++ l.powerChars) := by
  unfold fractionChars
  cases l.fraction with
  | none => exact l.stops_powerChars
  | some ds => exact .cons rfl _

/-- No power begins with the point, so it tells whether there is a fraction. -/
theorem powerChars_ne (l : Literal) (rest : List Char) : l.powerChars ≠ '.' :: rest := by
  unfold powerChars
  cases l.power with
  | none =>
    intro h
    cases h
  | some p =>
    intro h
    have hmark : p.mark = '.' := (List.cons.inj h).1
    rcases p.mark_eq with h | h
    · rw [h] at hmark
      revert hmark
      decide
    · rw [h] at hmark
      revert hmark
      decide

theorem fraction_chars (l : Literal) :
    Decimal.fraction (l.fractionChars ++ l.powerChars) = (l.fraction.getD [], l.powerChars) := by
  have hdigit := l.isDigit
  unfold fractionChars
  cases hfraction : l.fraction with
  | none =>
    simp only [Option.elim_none, List.nil_append, Option.getD_none]
    unfold Decimal.fraction
    split
    · next h => exact absurd h (l.powerChars_ne _)
    · rfl
  | some ds =>
    rw [hfraction] at hdigit
    have hds : ∀ c ∈ ds, c.isDigit = true := fun c hc => hdigit c (List.mem_append_right _ hc)
    show (((ds ++ l.powerChars).takeWhile Char.isDigit, (ds ++ l.powerChars).dropWhile Char.isDigit)) = _
    rw [takeWhile_append hds l.stops_powerChars, dropWhile_append hds l.stops_powerChars]
    rfl

/-- The reader takes a literal for its value. -/
theorem literal?_chars (l : Literal) : literal? l.chars = some (l.neg, l.coefficient, l.exponent) := by
  have hwhole : ∀ c ∈ l.whole, c.isDigit = true := fun c hc => l.isDigit c (List.mem_append_left _ hc)
  have hpower : power? l.powerChars = some (l.power.elim 0 LiteralPower.value) := by
    unfold powerChars
    cases l.power with
    | none => rfl
    | some p => exact power?_chars p
  have hdigits : ¬ (l.whole.isEmpty && (l.fraction.getD []).isEmpty) = true := by
    rw [Bool.and_eq_true, List.isEmpty_iff, List.isEmpty_iff, ← List.append_eq_nil_iff]
    exact l.digits_ne
  unfold literal?
  simp only [sign_chars, body, takeWhile_append hwhole l.stops_fractionChars,
    dropWhile_append hwhole l.stops_fractionChars, fraction_chars]
  rw [if_neg hdigits, hpower]
  rfl

end Literal

theorem exists_fraction (cs : List Char) : ∃ f : Option (List Char),
    f.elim [] ('.' :: ·) ++ (fraction cs).2 = cs ∧ f.getD [] = (fraction cs).1 ∧
      ∀ c ∈ (fraction cs).1, c.isDigit = true := by
  unfold fraction
  split
  · next rest =>
    refine ⟨some (rest.takeWhile Char.isDigit), ?_, rfl, fun c hc => List.mem_takeWhile_imp hc⟩
    exact congrArg ('.' :: ·) List.takeWhile_append_dropWhile
  · exact ⟨none, rfl, rfl, fun c hc => (List.not_mem_nil hc).elim⟩

/-- What the reader takes is a literal. -/
theorem exists_literal {neg : Bool} {n : Nat} {e : Int} (h : literal? cs = some (neg, n, e)) :
    ∃ l : Literal, l.chars = cs ∧ l.neg = neg ∧ l.coefficient = n ∧ l.exponent = e := by
  obtain ⟨s, hs, hbody, hneg⟩ := exists_isSign cs
  obtain ⟨f, hf, hfraction, hfdigit⟩ := exists_fraction ((sign cs).2.dropWhile Char.isDigit)
  unfold literal? at h
  simp only [Option.ite_none_left_eq_some, Option.map_eq_some_iff, Prod.mk.injEq] at h
  obtain ⟨hdigits, e', hpower, rfl, rfl, rfl⟩ := h
  obtain ⟨p, hp, rfl⟩ := exists_power hpower
  rw [← hfraction] at hdigits hfdigit
  -- the pieces that the reader cuts the text into are the parts of the literal
  refine ⟨⟨s, (sign cs).2.takeWhile Char.isDigit, f, p, hs, ?_, ?_⟩, ?_, hneg.symm, ?_, ?_⟩
  · rwa [Bool.and_eq_true, List.isEmpty_iff, List.isEmpty_iff, ← List.append_eq_nil_iff] at hdigits
  · intro c hc
    exact (List.mem_append.1 hc).elim List.mem_takeWhile_imp (hfdigit c)
  · show s ++ ((sign cs).2.takeWhile Char.isDigit ++ (f.elim [] ('.' :: ·) ++ p.elim [] LiteralPower.chars)) = cs
    rw [hp, hf, List.takeWhile_append_dropWhile, hbody]
  · rw [← hfraction]
    rfl
  · rw [← hfraction]
    rfl

/-- The reader takes literals, each for its value, and nothing else. -/
theorem literal?_eq_some_iff {neg : Bool} {n : Nat} {e : Int} : literal? cs = some (neg, n, e) ↔
    ∃ l : Literal, l.chars = cs ∧ l.neg = neg ∧ l.coefficient = n ∧ l.exponent = e := by
  refine ⟨exists_literal, ?_⟩
  rintro ⟨l, rfl, rfl, rfl, rfl⟩
  exact l.literal?_chars

/-! ## Texts that spell numbers -/

variable {text : String}

/-- The text is the literal, with blanks around it. -/
def Spells (text : String) (l : Literal) : Prop :=
  l.chars = Text.trim text.toList

theorem number?_of_spells {l : Literal} (h : Spells text l) :
    number? text = Binary64.ofDecimal l.neg l.coefficient l.exponent := by
  rw [number?, ← h, l.literal?_chars]
  rfl

/-- A text spells a number when it is a literal that is not too great. -/
theorem number?_isSome_iff :
    (number? text).isSome = true ↔ ∃ l : Literal, Spells text l ∧ l.magnitude < Binary64.overflow := by
  have hsome : ∀ l : Literal,
      (Binary64.ofDecimal l.neg l.coefficient l.exponent).isSome = true ↔ l.magnitude < Binary64.overflow := by
    intro l
    rw [Option.isSome_iff_ne_none, ne_eq, Binary64.ofDecimal_eq_none_iff, not_le]
    rfl
  constructor
  · intro h
    obtain ⟨x, hx⟩ := Option.isSome_iff_exists.1 h
    obtain ⟨⟨neg, n, e⟩, hliteral, -⟩ := Option.bind_eq_some_iff.1 hx
    obtain ⟨l, hl, -⟩ := literal?_eq_some_iff.1 hliteral
    rw [number?_of_spells hl, hsome] at h
    exact ⟨l, hl, h⟩
  · rintro ⟨l, hl, hlt⟩
    rw [number?_of_spells hl, hsome]
    exact hlt

theorem number?_eq_none_of_overflow {l : Literal} (h : Spells text l) (hl : Binary64.overflow ≤ l.magnitude) :
    number? text = none := by
  rw [number?_of_spells h, Binary64.ofDecimal_eq_none_iff]
  exact hl

/-- Blanks spell nothing. -/
theorem not_spells_of_isBlankText (h : Text.isBlankText text = true) (l : Literal) : ¬ Spells text l := by
  obtain ⟨c, rest, hbody, -⟩ := l.exists_body
  unfold Spells
  rw [(Text.trim_eq_nil_iff _).2 h, Literal.chars, hbody]
  simp

/-- The words for infinities and for what is no number, in any case and behind any sign. -/
def IsNonFiniteWord (cs : List Char) : Prop :=
  ∃ s word, IsSign s ∧ s ++ word = cs ∧
    word.map Char.toLower ∈ ["inf".toList, "infinity".toList, "nan".toList]

/-- Neither digits nor the point have a case. -/
theorem toLower_of_isDigit {c : Char} (h : c.isDigit = true ∨ c = '.') : c.toLower = c := by
  have hA : 'A'.val.toNat = 65 := rfl
  have h9 : '9'.val.toNat = 57 := rfl
  rcases h with h | rfl
  · unfold Char.isDigit at h
    simp only [Bool.and_eq_true, decide_eq_true_eq, ge_iff_le, UInt32.le_iff_toNat_le] at h
    refine dif_neg fun hupper => ?_
    simp only [ge_iff_le, UInt32.le_iff_toNat_le] at hupper
    omega
  · rfl

/-- No literal is such a word, since they begin with a letter. -/
theorem not_spells_of_isNonFiniteWord (h : IsNonFiniteWord (Text.trim text.toList)) (l : Literal) :
    ¬ Spells text l := by
  obtain ⟨s, word, hs, hword, hnonFinite⟩ := h
  intro hl
  obtain ⟨c, rest, hbody, hc⟩ := l.exists_body
  have hletter : ∀ d ∈ word.head?, d.toLower = 'i' ∨ d.toLower = 'n' := by
    intro d hd
    obtain ⟨tail, rfl⟩ := List.head?_eq_some_iff.1 hd
    simp only [List.map_cons, List.mem_cons, List.not_mem_nil, or_false] at hnonFinite
    rcases hnonFinite with h | h | h
    · exact Or.inl (List.cons.inj h).1
    · exact Or.inl (List.cons.inj h).1
    · exact Or.inr (List.cons.inj h).1
  have hsign : ∀ d ∈ word.head?, d ≠ '+' ∧ d ≠ '-' := by
    intro d hd
    constructor
    · rintro rfl
      exact absurd (hletter _ hd) (by decide)
    · rintro rfl
      exact absurd (hletter _ hd) (by decide)
  -- the sign of a text is read in one way, so what stands behind it is the same
  have hwords : (l.neg, l.body) = (s == ['-'], word) := by
    rw [← l.sign_chars, hl, ← hword, sign_append hs hsign]
  have hhead : c ∈ word.head? := by
    rw [← (Prod.mk.inj hwords).2, hbody]
    rfl
  have hcase := hletter c hhead
  rw [toLower_of_isDigit hc] at hcase
  rcases hcase with rfl | rfl
  · revert hc
    decide
  · revert hc
    decide

end Decimal

end FieldRules
