/-
Whole numbers of 64 bits against bounds of the same kind. Both are rounded before they are compared. Rounding keeps
the order, so a constraint can only take neighbours for equal: what holds of the exact numbers without strictness holds
of the rounded ones. Up to `2 ^ 53` nothing is rounded, and the constraints ask for the exact relations. The main
statement is `integers_compared`.
-/
import FieldRules.Proofs.Compile.Arguments
import FieldRules.Proofs.Decimal.Whole
import FieldRules.Proofs.Pipeline.Comparison

namespace FieldRules

/-! ## Whole numbers -/

namespace Number

/-- The whole number that is kept exactly, if it is one of the two integer ranges. -/
def int? : Number → Option ℤ
  | natural n => some n
  | negative n => some (-(n + 1))
  | real _ => none

variable {a b : Number} {x y : ℤ}

/-- A whole number is rounded by its sign and its magnitude. -/
theorem toBinary64_of_int (h : a.int? = some x) :
    a.toBinary64 = Binary64.ofNat (decide (x < 0)) x.natAbs ∧ x.natAbs ≤ 2 ^ 64 := by
  cases a with
  | natural n =>
    have hn : (n : ℕ) < 2 ^ 64 := n.isLt
    cases h
    refine ⟨?_, by omega⟩
    rw [decide_eq_false (by omega), Int.natAbs_natCast]
    rfl
  | negative n =>
    have hn : (n : ℕ) < 2 ^ 63 := n.isLt
    cases h
    refine ⟨?_, by omega⟩
    rw [decide_eq_true (by omega), show (-((n : ℤ) + 1)).natAbs = n + 1 by omega]
    rfl
  | real _ => cases h

/-- Rounding keeps the order. -/
theorem toBinary64_le_toBinary64 (ha : a.int? = some x) (hb : b.int? = some y) (h : x ≤ y) :
    a.toBinary64 ≤ b.toBinary64 := by
  obtain ⟨hx, hx'⟩ := toBinary64_of_int ha
  obtain ⟨hy, hy'⟩ := toBinary64_of_int hb
  rw [hx, hy, Binary64.le_iff_key, Binary64.key_ofNat _ hx', Binary64.key_ofNat _ hy']
  simp only [decide_eq_true_eq]
  -- numbers of one sign are in the order of their ranks, and those of two signs lie on two sides of zero
  rcases lt_or_ge y 0 with hyneg | hynonneg
  · have hrank := Binary64.rankOfRatio_natCast_le (show y.natAbs ≤ x.natAbs by omega)
    rw [if_pos hyneg, if_pos (h.trans_lt hyneg)]
    omega
  · rw [if_neg hynonneg.not_gt]
    by_cases hxneg : x < 0
    · rw [if_pos hxneg]
      omega
    · have hrank := Binary64.rankOfRatio_natCast_le (show x.natAbs ≤ y.natAbs by omega)
      rw [if_neg hxneg]
      omega

/-- Up to `2 ^ 53` rounding changes nothing. -/
theorem value_toBinary64 (ha : a.int? = some x) (hx : |x| ≤ 2 ^ 53) : a.toBinary64.value = x := by
  have hmagnitude : x.natAbs ≤ 2 ^ 53 := by
    rw [Int.abs_eq_natAbs] at hx
    exact_mod_cast hx
  rw [(toBinary64_of_int ha).1, Binary64.value_ofNat _ hmagnitude, Nat.cast_natAbs]
  by_cases hneg : x < 0
  · rw [if_pos (decide_eq_true hneg), abs_of_neg hneg, Int.cast_neg, neg_neg]
  · rw [if_neg (by simpa using hneg), abs_of_nonneg (not_lt.1 hneg)]

end Number

/-! ## Answers of constraints -/

namespace Rule

/-- The answer of a constraint on a number, if it accepts the numbers that are its arguments. -/
def answer? [PatternEngine] (r : Rule) (c : Constraint) (bounds : List Number) (n : Number) : Option Bool :=
  (r.check c (bounds.map .number)).toOption.map (Check.passes (.number n))

variable {r : Rule} {a b l u : Number}

/-- A comparison accepts every number as its bound. -/
theorem answer?_comparison [PatternEngine] {c : Constraint} {op : Comparison} (hc : c.comparison? = some op) :
    r.answer? c [b] a = some (op.holds a.toBinary64 b.toBinary64) := by
  have hcheck : r.check c ([b].map .number) = .ok (.number (.compare op b.toBinary64)) :=
    (check_comparison hc _).2 ⟨b, rfl, rfl⟩
  rw [answer?, hcheck]
  rfl

/-- A range accepts numbers that are in order after they are rounded. -/
theorem answer?_between [PatternEngine] : r.answer? .between [l, u] a = if l.toBinary64 < u.toBinary64 then
    some (decide (l.toBinary64 ≤ a.toBinary64) && decide (a.toBinary64 ≤ u.toBinary64)) else none := by
  have hcheck : r.check .between ([l, u].map .number) = (r.range (.number l) (.number u)).map .number := rfl
  rw [answer?, hcheck]
  by_cases hlt : l.toBinary64 < u.toBinary64
  · rw [range_eq_ok_iff.2 ⟨l, u, hlt, rfl, rfl, rfl⟩, if_pos hlt]
    rfl
  · rw [if_neg hlt, range, number, number]
    simp only [bind, Except.bind, dif_neg hlt]
    rfl

end Rule

/-! ## Whole numbers against bounds -/

variable {r : Rule} {a b l u : Number} {x y z : ℤ}

theorem Rule.answer?_comparison_exact [PatternEngine] {c : Constraint} {op : Comparison} (hc : c.comparison? = some op)
    (ha : a.int? = some x) (hb : b.int? = some y) (hx : |x| ≤ 2 ^ 53) (hy : |y| ≤ 2 ^ 53) :
    r.answer? c [b] a = some (decide (op.Relates x y)) := by
  rw [answer?_comparison hc, Option.some.injEq, Bool.eq_iff_iff, Comparison.holds_iff, decide_eq_true_iff,
    Number.value_toBinary64 ha hx, Number.value_toBinary64 hb hy]

theorem Rule.answer?_between_exact [PatternEngine] (ha : a.int? = some x) (hl : l.int? = some y) (hu : u.int? = some z)
    (hx : |x| ≤ 2 ^ 53) (hy : |y| ≤ 2 ^ 53) (hz : |z| ≤ 2 ^ 53) :
    r.answer? .between [l, u] a = if y < z then some (decide (y ≤ x ∧ x ≤ z)) else none := by
  rw [answer?_between]
  simp only [Binary64.lt_iff_value, Binary64.le_iff_value, Number.value_toBinary64 ha hx,
    Number.value_toBinary64 hl hy, Number.value_toBinary64 hu hz, Int.cast_lt, Int.cast_le, Bool.decide_and]

/-- Between whole numbers of 64 bits a bound that holds is never missed, nor is one with strictness found where the
exact numbers do not have it; a range that is accepted misses none of its numbers. Up to `2 ^ 53` the constraints ask
for the exact relations, and ranges are accepted whose ends are in order. -/
theorem integers_compared [PatternEngine] (r : Rule) (ha : a.int? = some x) :
    (∀ b y, b.int? = some y →
      (x ≤ y → r.answer? .lowerOrEqual [b] a = some true ∧ r.answer? .greaterThan [b] a = some false) ∧
      (y ≤ x → r.answer? .greaterOrEqual [b] a = some true ∧ r.answer? .lowerThan [b] a = some false) ∧
      (x = y → r.answer? .equal [b] a = some true)) ∧
    (∀ l u y z, l.int? = some y → u.int? = some z → r.answer? .between [l, u] a ≠ none → y ≤ x → x ≤ z →
      r.answer? .between [l, u] a = some true) ∧
    (|x| ≤ 2 ^ 53 →
      (∀ b y, b.int? = some y → |y| ≤ 2 ^ 53 → ∀ c op, c.comparison? = some op →
        r.answer? c [b] a = some (decide (op.Relates x y))) ∧
      ∀ l u y z, l.int? = some y → u.int? = some z → |y| ≤ 2 ^ 53 → |z| ≤ 2 ^ 53 →
        r.answer? .between [l, u] a = if y < z then some (decide (y ≤ x ∧ x ≤ z)) else none) := by
  refine ⟨fun b y hb => ⟨fun hle => ?_, fun hge => ?_, fun heq => ?_⟩, fun l u y z hl hu hsome hlow hhigh => ?_,
    fun hx => ⟨fun b y hb hy c op hc => Rule.answer?_comparison_exact hc ha hb hx hy,
      fun l u y z hl hu hy hz => Rule.answer?_between_exact ha hl hu hx hy hz⟩⟩
  · have hle := Number.toBinary64_le_toBinary64 ha hb hle
    rw [Rule.answer?_comparison rfl, Rule.answer?_comparison rfl]
    exact ⟨congrArg some (decide_eq_true hle), congrArg some (decide_eq_false (Int.not_lt.2 hle))⟩
  · have hge := Number.toBinary64_le_toBinary64 hb ha hge
    rw [Rule.answer?_comparison rfl, Rule.answer?_comparison rfl]
    exact ⟨congrArg some (decide_eq_true hge), congrArg some (decide_eq_false (Int.not_lt.2 hge))⟩
  · have hle := Number.toBinary64_le_toBinary64 ha hb heq.le
    have hge := Number.toBinary64_le_toBinary64 hb ha heq.ge
    rw [Rule.answer?_comparison rfl]
    exact congrArg some (Binary64.same_iff_key.2 (le_antisymm hle hge))
  · have hlow := Number.toBinary64_le_toBinary64 hl ha hlow
    have hhigh := Number.toBinary64_le_toBinary64 ha hu hhigh
    rw [Rule.answer?_between, ite_ne_right_iff] at hsome
    rw [Rule.answer?_between, if_pos hsome.1, decide_eq_true hlow, decide_eq_true hhigh]
    rfl

/-- Above `2 ^ 53` a number and its neighbour fall together, so that the greater one is not found to be above the other;
but it is at least as great, and in the range from the least number of 64 bits to the greatest. -/
theorem integers_compared_neighbours : ∃ (r : Rule) (a b : Number), a.int? = some (2 ^ 53 + 1) ∧
    b.int? = some (2 ^ 53) ∧ r.answer? .greaterThan [b] a = some false ∧
    r.answer? .greaterOrEqual [b] a = some true ∧ r.answer? .lowerThan [b] a = some false ∧
    r.answer? .between [.negative (Fin.last _), .natural (Fin.last _)] a = some true ∧
    r.answer? .greaterThan [.natural ⟨0, by decide⟩] b = some true := by
  obtain ⟨hcompare, hbetween, -⟩ := integers_compared (a := .natural ⟨2 ^ 53 + 1, by decide⟩) (x := 2 ^ 53 + 1)
    ⟨"ge", .number⟩ rfl
  obtain ⟨-, -, hexact⟩ := integers_compared (a := .natural ⟨2 ^ 53, by decide⟩) (x := 2 ^ 53) ⟨"ge", .number⟩ rfl
  obtain ⟨hge, hlt⟩ := (hcompare (.natural ⟨2 ^ 53, by decide⟩) (2 ^ 53) rfl).2.1 (by norm_num)
  refine ⟨_, _, _, rfl, rfl, by decide +kernel, hge, hlt, ?_, ?_⟩
  · exact hbetween _ _ _ _ rfl rfl (by decide +kernel) (by decide) (by decide)
  · rw [(hexact (by norm_num)).1 _ _ rfl (by norm_num) .greaterThan .above rfl]
    decide +kernel

end FieldRules
