/-
Powers of two and of ten. The powers of two bound the whole numbers of a width in bits.
-/

namespace FieldRules

/-- The number of whole numbers that fit in so many bits. -/
def twoPow (bits : Nat) : Nat :=
  Nat.pow 2 bits

/-- One with so many zeros behind it. -/
def tenPow (zeros : Nat) : Nat :=
  Nat.pow 10 zeros

theorem twoPow_zero : twoPow 0 = 1 := rfl

theorem twoPow_succ (n : Nat) : twoPow (n + 1) = twoPow n * 2 := rfl

theorem twoPow_pos (n : Nat) : 0 < twoPow n := by
  induction n with
  | zero => decide
  | succ n ih => rw [twoPow_succ]; omega

theorem tenPow_zero : tenPow 0 = 1 := rfl

theorem tenPow_succ (n : Nat) : tenPow (n + 1) = tenPow n * 10 := rfl

theorem tenPow_pos (n : Nat) : 0 < tenPow n := by
  induction n with
  | zero => decide
  | succ n ih => rw [tenPow_succ]; omega

theorem twoPow_63 : twoPow 63 = 9223372036854775808 := rfl

theorem twoPow_64 : twoPow 64 = 18446744073709551616 := rfl

end FieldRules
