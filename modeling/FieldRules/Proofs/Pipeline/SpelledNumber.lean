/-
Numbers and the texts that spell them. The text of a number is a decimal literal of that number, rounded as the number
itself is (`Number.exists_literal`), and no literal has a blank in it, so the literal is read from the text with any
blanks around it. A compiled field of numbers goes by the number that a value stands for and by nothing else
(`run_congr_of_number`); so it answers on a number and on its padded text alike, which is the main statement
`run_spelled`.
-/
import FieldRules.Proofs.Decimal.Whole
import FieldRules.Proofs.Pipeline.Comparison
import FieldRules.Proofs.Pipeline.Padding

namespace FieldRules

/-! ## Literals -/

namespace Decimal

theorem isBlank_of_isDigit {c : Char} (h : c.isDigit = true) : Text.isBlank c = false := by
  unfold Char.isDigit at h
  simp only [Bool.and_eq_true, decide_eq_true_eq, ge_iff_le, UInt32.le_iff_toNat_le] at h
  have hlow : 48 ≤ c.toNat := h.1
  have hhigh : c.toNat ≤ 57 := h.2
  unfold Text.isBlank
  simp only [Bool.or_eq_false_iff, Bool.and_eq_false_iff, decide_eq_false_iff_not, beq_eq_false_iff_ne]
  omega

theorem IsSign.isBlank {s : List Char} (h : IsSign s) : ∀ c ∈ s, Text.isBlank c = false := by
  rcases h with rfl | rfl | rfl
  · exact List.forall_mem_nil _
  · exact List.forall_mem_singleton.2 rfl
  · exact List.forall_mem_singleton.2 rfl

theorem LiteralPower.isBlank (p : LiteralPower) : ∀ c ∈ p.chars, Text.isBlank c = false := by
  refine List.forall_mem_cons.2 ⟨?_, List.forall_mem_append.2 ⟨p.isSign.isBlank, fun c hc => ?_⟩⟩
  · rcases p.mark_eq with h | h
    · rw [h]; rfl
    · rw [h]; rfl
  · exact isBlank_of_isDigit (p.isDigit c hc)

namespace Literal

theorem isBlank (l : Literal) : ∀ c ∈ l.chars, Text.isBlank c = false := by
  have hdigit : ∀ c ∈ l.whole ++ l.fraction.getD [], Text.isBlank c = false := fun c hc =>
    isBlank_of_isDigit (l.isDigit c hc)
  rw [List.forall_mem_append] at hdigit
  refine List.forall_mem_append.2 ⟨l.isSign.isBlank, List.forall_mem_append.2 ⟨hdigit.1,
    List.forall_mem_append.2 ⟨?_, ?_⟩⟩⟩
  · unfold fractionChars
    cases hfraction : l.fraction with
    | none => exact List.forall_mem_nil _
    | some ds =>
      rw [hfraction] at hdigit
      exact List.forall_mem_cons.2 ⟨rfl, hdigit.2⟩
  · unfold powerChars
    cases l.power with
    | none => exact List.forall_mem_nil _
    | some p => exact p.isBlank

/-- A literal is read through the blanks around it. -/
theorem spells_padded (l : Literal) {w₁ w₂ : String} (h₁ : Text.isBlankText w₁ = true)
    (h₂ : Text.isBlankText w₂ = true) : Spells (w₁ ++ String.ofList l.chars ++ w₂) l := by
  unfold Spells
  rw [Text.trim_padded h₁ h₂, String.toList_ofList, Text.trim_of_isBare (Text.isBare_of_forall l.isBlank)]

end Literal

end Decimal

/-! ## Numerals as literals -/

namespace Json.Numeral

variable {n : Numeral}

/-- The power of a numeral, as a part of a literal. -/
def literalPower (e : Int) : Decimal.LiteralPower where
  mark := 'e'
  sign := [if e < 0 then '-' else '+']
  digits := Nat.toDigits 10 e.natAbs
  mark_eq := Or.inl rfl
  isSign := by
    split
    · exact Or.inr (Or.inr rfl)
    · exact Or.inr (Or.inl rfl)
  digits_ne := Nat.toDigits_ne_nil
  isDigit := fun _ hc => isDigit_of_mem_toDigits hc

theorem value_literalPower (e : Int) : (literalPower e).value = e := by
  have hvalue : Decimal.digitsValue (literalPower e).digits = e.natAbs := Decimal.digitsValue_toDigits _
  rw [Decimal.LiteralPower.value, hvalue]
  by_cases he : e < 0
  · have hsign : (literalPower e).sign = ['-'] := congrArg (fun c => [c]) (if_pos he)
    rw [if_pos hsign]
    omega
  · have hsign : (literalPower e).sign = ['+'] := congrArg (fun c => [c]) (if_neg he)
    rw [if_neg (by rw [hsign]; decide)]
    omega

/-- A numeral with a sign, as a literal. -/
def literal (n : Numeral) (hn : n.Valid) (neg : Bool) : Decimal.Literal where
  sign := if neg then ['-'] else []
  whole := n.whole
  fraction := n.fraction
  power := n.power.map literalPower
  isSign := by
    cases neg with
    | true => exact Or.inr (Or.inr rfl)
    | false => exact Or.inl rfl
  digits_ne := by
    rcases hn.whole with hw | ⟨d, ds, hw, -⟩
    · rw [hw]; exact List.cons_ne_nil _ _
    · rw [hw]; exact List.cons_ne_nil _ _
  isDigit := by
    refine List.forall_mem_append.2 ⟨hn.wholeDigits, ?_⟩
    cases hfraction : n.fraction with
    | none => exact List.forall_mem_nil _
    | some ds => exact (hn.fraction ds hfraction).2

variable (hn : n.Valid) (neg : Bool)

theorem chars_literal : (n.literal hn neg).chars = (if neg then ['-'] else []) ++ n.chars := by
  have hpower : (n.literal hn neg).powerChars = n.powerChars := by
    unfold Decimal.Literal.powerChars powerChars literal
    cases n.power with
    | none => rfl
    | some e => rfl
  rw [Decimal.Literal.chars, Decimal.Literal.body, hpower]
  rfl

theorem neg_literal : (n.literal hn neg).neg = neg := by
  cases neg with
  | true => rfl
  | false => rfl

theorem exponent_literal : (n.literal hn neg).exponent = n.exponent := by
  have hpower : (n.power.map literalPower).elim 0 Decimal.LiteralPower.value = n.power.getD 0 := by
    cases n.power with
    | none => rfl
    | some e => exact value_literalPower e
  show (n.power.map literalPower).elim 0 Decimal.LiteralPower.value - _ = _
  rw [hpower]
  rfl

/-- The literal is rounded as the parts of the numeral are. -/
theorem ofDecimal_literal :
    Binary64.ofDecimal (n.literal hn neg).neg (n.literal hn neg).coefficient (n.literal hn neg).exponent =
      Binary64.ofDecimal neg n.coefficient n.exponent := by
  rw [neg_literal, exponent_literal]
  rfl

end Json.Numeral

/-! ## The literals of numbers -/

/-- Whole numbers of 64 bits are rounded in the same way, whether they are kept or spelled. -/
theorem Binary64.ofDecimal_natCast (neg : Bool) {k : ℕ} (hk : k ≤ 2 ^ 64) : ofDecimal neg k 0 = some (ofNat neg k) := by
  have hdigits : digitCount k ≤ 20 := (Nat.length_toDigits_le_iff (by decide) (by decide)).2 (by omega)
  unfold ofDecimal
  simp only [Int.zero_add, Int.toNat_zero, Int.neg_zero, tenPow_zero, Nat.mul_one]
  by_cases hzero : k = 0
  · rw [hzero]
    rfl
  · rw [if_neg (by omega), if_neg (by omega)]
    exact ofRatio_natCast neg hk

/-- The text of a number is a literal, which is rounded to the number. -/
theorem Number.exists_literal (n : Number) : ∃ l : Decimal.Literal, l.chars = n.chars ∧
    Binary64.ofDecimal l.neg l.coefficient l.exponent = some n.toBinary64 := by
  -- a whole number is its digits with a sign
  have hwhole : ∀ neg k, k ≤ 2 ^ 64 → ∃ l : Decimal.Literal,
      l.chars = (if neg then ['-'] else []) ++ Nat.toDigits 10 k ∧
        Binary64.ofDecimal l.neg l.coefficient l.exponent = some (Binary64.ofNat neg k) := by
    intro neg k hk
    refine ⟨(Json.Numeral.ofNat k).literal (Json.Numeral.valid_ofNat k) neg, ?_, ?_⟩
    · rw [Json.Numeral.chars_literal, Json.Numeral.chars_ofNat]
    · rw [Json.Numeral.ofDecimal_literal, Json.Numeral.coefficient_ofNat]
      exact Binary64.ofDecimal_natCast neg hk
  cases n with
  | natural k => exact hwhole false k k.isLt.le
  | negative k =>
    have hk : (k : ℕ) < 2 ^ 63 := k.isLt
    exact hwhole true (k + 1) (by omega)
  | real x =>
    refine ⟨(Json.Numeral.ofBinary64 x).literal (Json.Numeral.valid_ofBinary64 x) x.neg, ?_, ?_⟩
    · rw [Json.Numeral.chars_literal, Number.chars, Json.Numeral.write_eq]
    · rw [Json.Numeral.ofDecimal_literal, Json.Numeral.ofDecimal_ofBinary64]
      rfl

/-! ## Fields of numbers -/

/-- Steps that judge two values alike give the same message. -/
theorem Step.findSome?_congr {v v' : Json} {steps : List Step}
    (h : ∀ st ∈ steps, st.check.passes v = st.check.passes v') :
    steps.findSome? (run v) = steps.findSome? (run v') := by
  induction steps with
  | nil => rfl
  | cons st steps ih =>
    obtain ⟨hst, hsteps⟩ := List.forall_mem_cons.1 h
    rw [List.findSome?_cons, List.findSome?_cons, ih hsteps, run, run, hst]

/-- A compiled field of numbers goes by the number that a value stands for. -/
theorem FieldSpec.run_congr_of_number [PatternEngine] {f : FieldSpec} {p : Pipeline} {v v' : Json} {x : Binary64}
    (hp : f.compile = .ok p) (htype : p.type = .number) (hv : v.asNumber = some x) (hv' : v'.asNumber = some x) :
    p.run (some v) = p.run (some v') := by
  have hstands : ∀ {u : Json}, u.asNumber = some x → p.gate.handed? (some u) = some u := fun hu =>
    p.gate.handed?_of_standsForNumber (Json.asNumber_isSome_iff.1 (hu ▸ rfl))
  have hpasses : ∀ st ∈ p.steps, st.check.passes v = st.check.passes v' := by
    intro st hst
    rcases check_of_number hp htype hst with hc | ⟨c, hc⟩
    · rw [hc]
      exact congrArg Option.isSome (hv.trans hv'.symm)
    · rw [hc]
      exact NumberCheck.passes_congr (hv.trans hv'.symm) c
  rw [Pipeline.run_of_handed (hstands hv), Pipeline.run_of_handed (hstands hv')]
  exact Step.findSome?_congr hpasses

/-- A number and its text, with any blanks around it, stand for the same number; so a compiled field of numbers gives
the same answer on both. -/
theorem run_spelled [PatternEngine] (n : Number) {w₁ w₂ : String} (h₁ : Text.isBlankText w₁ = true)
    (h₂ : Text.isBlankText w₂ = true) :
    (Json.text (w₁ ++ (Json.number n).compact ++ w₂)).asNumber = (Json.number n).asNumber ∧
    ∀ (f : FieldSpec) (p : Pipeline), f.compile = .ok p → p.type = .number →
      p.run (some (.text (w₁ ++ (Json.number n).compact ++ w₂))) = p.run (some (.number n)) := by
  obtain ⟨l, hchars, hl⟩ := n.exists_literal
  have hnumber : (Json.text (w₁ ++ (Json.number n).compact ++ w₂)).asNumber = some n.toBinary64 := by
    rw [Json.compact, Json.chars, ← hchars, Json.asNumber, Decimal.number?_of_spells (l.spells_padded h₁ h₂), hl]
  exact ⟨hnumber, fun f p hp htype => FieldSpec.run_congr_of_number hp htype hnumber rfl⟩

/-- The greatest number that is kept exactly, with blanks of three bytes in front of its text; what both are rounded
to lies one above it, and above the range of the field. -/
theorem run_spelled_greatest : ∃ p, FieldSpec.sampleRate.compile = .ok p ∧
    (Json.text "\u2003\u202818446744073709551615\n").asNumber = some (Binary64.ofNat false (twoPow 64 - 1)) ∧
    p.run (some (.text "\u2003\u202818446744073709551615\n")) = p.run (some (.number (.natural (Fin.last _)))) := by
  have htext : "\u2003\u2028" ++ (Json.number (.natural (Fin.last _))).compact ++ "\n" =
      "\u2003\u202818446744073709551615\n" := by decide +kernel
  have hfront : Text.isBlankText "\u2003\u2028" = true := by decide
  have hback : Text.isBlankText "\n" = true := by decide
  obtain ⟨hnumber, hrun⟩ := run_spelled (.natural (Fin.last _)) hfront hback
  rw [htext] at hnumber hrun
  exact ⟨_, rfl, hnumber, hrun FieldSpec.sampleRate _ rfl rfl⟩

end FieldRules
