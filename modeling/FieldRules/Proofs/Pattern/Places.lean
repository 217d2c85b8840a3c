/-
Sets of places under a step. A step follows a relation between places when it takes a set to the places that the
relation leads to from it (`Places.Follows`). Repeating the step then follows the chains of the relation
(`Follows.steps`, `Follows.upTo`, `Follows.closure`). A relation that never goes back and stays in a text has to stand
still in a chain of more links than the text has places, so the number of repetitions may be cut to the number of
places (`Advances.chain_min`).
-/
import FieldRules.Pattern.Basic
import Mathlib.Data.Nat.Bitwise
import Mathlib.Order.MinMax

namespace FieldRules.Places

/-! ## Members -/

theorem testBit_ofMarks {marks : List Bool} {i : ℕ} : (ofMarks marks).testBit i = marks[i]?.getD false := by
  induction marks generalizing i with
  | nil => simp [ofMarks]
  | cons b marks ih =>
    rw [ofMarks]
    cases i with
    | zero => cases b <;> simp [Nat.testBit_zero, Nat.add_mod]
    | succ i =>
      have hhalf : (2 * ofMarks marks + b.toNat) / 2 = ofMarks marks := by
        have := Bool.toNat_lt b
        omega
      rw [Nat.testBit_succ, hhalf, ih]
      rfl

theorem ne_zero_iff {s : ℕ} : s ≠ 0 ↔ ∃ i, s.testBit i = true :=
  ⟨Nat.exists_testBit_of_ne_zero, fun ⟨i, hi⟩ hs => by simp [hs] at hi⟩

/-- The set of the first `n` places. -/
theorem testBit_twoPow_sub_one {n i : ℕ} : (twoPow n - 1).testBit i = true ↔ i < n := by
  rw [show (twoPow n - 1).testBit i = decide (i < n) from Nat.testBit_two_pow_sub_one n i, decide_eq_true_iff]

/-! ## Chains -/

variable {R R' : ℕ → ℕ → Prop} {i j l m n k : ℕ}

/-- A chain of `n` links from one place to another. -/
def Chain (R : ℕ → ℕ → Prop) : ℕ → ℕ → ℕ → Prop
  | 0, i, j => i = j
  | n + 1, i, j => ∃ m, R i m ∧ Chain R n m j

theorem chain_add : Chain R (m + n) i j ↔ ∃ k, Chain R m i k ∧ Chain R n k j := by
  induction m generalizing i with
  | zero => simp [Chain]
  | succ m ih =>
    rw [Nat.succ_add]
    constructor
    · rintro ⟨a, ha, h⟩
      obtain ⟨b, hb, h⟩ := ih.1 h
      exact ⟨b, ⟨a, ha, hb⟩, h⟩
    · rintro ⟨b, ⟨a, ha, hb⟩, h⟩
      exact ⟨a, ha, ih.2 ⟨b, hb, h⟩⟩

theorem exists_chain_le_succ :
    (∃ n ≤ k + 1, Chain R n i j) ↔ i = j ∨ ∃ m, R i m ∧ ∃ n ≤ k, Chain R n m j := by
  constructor
  · rintro ⟨n, hn, hchain⟩
    cases n with
    | zero => exact Or.inl hchain
    | succ n =>
      obtain ⟨m, him, hmj⟩ := hchain
      exact Or.inr ⟨m, him, n, Nat.le_of_succ_le_succ hn, hmj⟩
  · rintro (rfl | ⟨m, him, n, hn, hmj⟩)
    · exact ⟨0, Nat.zero_le _, rfl⟩
    · exact ⟨n + 1, Nat.succ_le_succ hn, m, him, hmj⟩

/-- A chain does not leave a set that no link leaves. -/
theorem Chain.mem {s : ℕ} (h : Chain R n i j) (hs : ∀ i j, s.testBit i = true → R i j → s.testBit j = true)
    (hi : s.testBit i = true) : s.testBit j = true := by
  induction n generalizing i with
  | zero => exact h ▸ hi
  | succ n ih =>
    obtain ⟨m, him, hmj⟩ := h
    exact ih hmj (hs i m hi him)

/-- No link goes back, and none leaves the places `0, …, l`. -/
def Advances (l : ℕ) (R : ℕ → ℕ → Prop) : Prop :=
  ∀ i j, R i j → i ≤ j ∧ (i = j ∨ j ≤ l)

namespace Advances

variable (hR : Advances l R)
include hR

theorem chain (n : ℕ) : Advances l (Chain R n) := by
  induction n with
  | zero =>
    rintro i j rfl
    exact ⟨le_rfl, Or.inl rfl⟩
  | succ n ih =>
    rintro i j ⟨m, him, hmj⟩
    have hlink := hR i m him
    have hrest := ih m j hmj
    omega

/-- A chain of as many links as there are places ahead stands still once, so it may do so once more or once less. -/
theorem chain_succ_iff (h : j < i + n) : Chain R (n + 1) i j ↔ Chain R n i j := by
  induction n generalizing i with
  | zero =>
    constructor
    · rintro ⟨m, him, rfl⟩
      have := (hR i m him).1
      omega
    · rintro rfl
      omega
  | succ n ih =>
    constructor
    · rintro ⟨m, him, hmj⟩
      rcases (hR i m him).1.eq_or_lt with rfl | hlt
      · exact hmj
      · exact ⟨m, him, (ih (by omega)).1 hmj⟩
    · rintro ⟨m, him, hmj⟩
      rcases (hR i m him).1.eq_or_lt with rfl | hlt
      · exact ⟨i, him, i, him, hmj⟩
      · exact ⟨m, him, (ih (by omega)).2 hmj⟩

/-- Beyond the number of places the length of a chain does not matter. -/
theorem chain_iff_of_lt (hn : l < n) (h : n ≤ m) : Chain R m i j ↔ Chain R n i j := by
  induction m, h using Nat.le_induction with
  | base => rfl
  | succ m hle ih =>
    have hnear : ∀ {k}, Chain R k i j → j < i + m := fun hchain => by
      have := hR.chain _ i j hchain
      omega
    rw [← ih]
    exact ⟨fun hchain => (hR.chain_succ_iff (hnear hchain)).1 hchain,
      fun hchain => (hR.chain_succ_iff (hnear hchain)).2 hchain⟩

theorem chain_min (n : ℕ) : Chain R (min n (l + 1)) i j ↔ Chain R n i j := by
  rcases le_total n (l + 1) with h | h
  · rw [min_eq_left h]
  · rw [min_eq_right h, hR.chain_iff_of_lt (Nat.lt_succ_self l) h]

/-- Each end of a chain is the end of a chain of no more links than there are places. -/
theorem exists_chain_le : (∃ n ≤ l + 1, Chain R n i j) ↔ ∃ n, Chain R n i j :=
  ⟨fun ⟨n, _, h⟩ => ⟨n, h⟩, fun ⟨n, h⟩ => ⟨min n (l + 1), min_le_right _ _, (hR.chain_min n).2 h⟩⟩

theorem exists_chain_le_min (k : ℕ) :
    (∃ n ≤ min k (l + 1), Chain R n i j) ↔ ∃ n ≤ k, Chain R n i j := by
  constructor
  · rintro ⟨n, hn, h⟩
    exact ⟨n, hn.trans (min_le_left _ _), h⟩
  · rintro ⟨n, hn, h⟩
    exact ⟨min n (l + 1), min_le_min hn le_rfl, (hR.chain_min n).2 h⟩

end Advances

/-! ## Steps -/

/-- The step takes a set to the places that the relation leads to from it. -/
def Follows (step : ℕ → ℕ) (R : ℕ → ℕ → Prop) : Prop :=
  ∀ s j, (step s).testBit j = true ↔ ∃ i, s.testBit i = true ∧ R i j

namespace Follows

variable {step step' : ℕ → ℕ}

theorem congr (h : Follows step R) (hR : ∀ i j, R i j ↔ R' i j) : Follows step R' := by
  intro s j
  rw [h s j]
  exact exists_congr fun i => and_congr_right fun _ => hR i j

theorem stay : Follows id (· = ·) :=
  fun s j => by simp

/-- One step behind another leads through the places between them. -/
theorem comp (h : Follows step R) (h' : Follows step' R') :
    Follows (fun s => step' (step s)) fun i j => ∃ m, R i m ∧ R' m j := by
  intro s j
  simp only [h' (step s) j, h s]
  constructor
  · rintro ⟨m, ⟨i, hi, him⟩, hmj⟩
    exact ⟨i, hi, m, him, hmj⟩
  · rintro ⟨i, hi, m, him, hmj⟩
    exact ⟨m, ⟨i, hi, him⟩, hmj⟩

theorem union (h : Follows step R) (h' : Follows step' R') :
    Follows (fun s => step s ||| step' s) fun i j => R i j ∨ R' i j := by
  intro s j
  rw [Nat.testBit_or, Bool.or_eq_true, h s j, h' s j, ← exists_or]
  exact exists_congr fun i => and_or_left.symm

variable (h : Follows step R)
include h

theorem steps (k : ℕ) : Follows (Places.steps step k) (Chain R k) := by
  induction k with
  | zero =>
    intro s j
    simp [Places.steps, Chain]
  | succ k ih =>
    intro s j
    rw [Places.steps]
    by_cases hs : s = 0
    · simp [hs]
    · rw [if_neg hs]
      exact h.comp ih s j

theorem upTo (k : ℕ) : Follows (Places.upTo step k) fun i j => ∃ n ≤ k, Chain R n i j := by
  induction k with
  | zero =>
    intro s j
    simp [Places.upTo, Chain]
  | succ k ih =>
    intro s j
    rw [Places.upTo]
    simp only [exists_chain_le_succ]
    by_cases hs : s = 0
    · simp [hs]
    · rw [if_neg hs]
      exact stay.union (h.comp ih) s j

theorem closure (k : ℕ) : Follows (Places.closure step k) fun i j => ∃ n ≤ k, Chain R n i j := by
  induction k with
  | zero =>
    intro s j
    simp [Places.closure, Chain]
  | succ k ih =>
    intro s j
    rw [Places.closure]
    simp only
    have hgrown : Follows (fun s => s ||| step s) fun i j => i = j ∨ R i j := stay.union h
    by_cases hs : s ||| step s = s
    · -- when a round adds nothing, no link leaves the set, and all further rounds may be left out
      have hclosed : ∀ i j, s.testBit i = true → R i j → s.testBit j = true := fun i j hi hij => by
        rw [← hs]
        exact (hgrown s j).2 ⟨i, hi, Or.inr hij⟩
      rw [if_pos hs]
      constructor
      · exact fun hj => ⟨j, hj, 0, Nat.zero_le _, rfl⟩
      · rintro ⟨i, hi, n, -, hchain⟩
        exact hchain.mem hclosed hi
    · rw [if_neg hs, (hgrown.comp ih) s j]
      refine exists_congr fun i => and_congr_right fun _ => ?_
      rw [exists_chain_le_succ]
      constructor
      · rintro ⟨m, rfl | him, n, hn, hchain⟩
        · exact exists_chain_le_succ.1 ⟨n, Nat.le_succ_of_le hn, hchain⟩
        · exact Or.inr ⟨m, him, n, hn, hchain⟩
      · rintro (rfl | ⟨m, him, hchain⟩)
        · exact ⟨i, Or.inl rfl, 0, Nat.zero_le _, rfl⟩
        · exact ⟨m, Or.inr him, hchain⟩

end Follows

end FieldRules.Places
