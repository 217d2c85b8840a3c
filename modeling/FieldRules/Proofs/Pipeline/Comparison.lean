/-
The checks of numbers. A value stands for a number when it is one, or when it is a text that spells one that is not
too great (`Json.StandsForNumber`). Such a value is checked by the exact value of its number, as the same relations
check a rational (`NumberCheck.passes_iff_of_asNumber`), and every other value fails all checks of numbers. The main
statement is `numberChecks_total`: the comparisons are those of a total order, and a compiled field of numbers accepts
a value only for a number that has what each of its checks asks for.
-/
import FieldRules.Proofs.Compile.WellTyped
import FieldRules.Proofs.Decimal.Literal
import FieldRules.Proofs.Decimal.Value
import FieldRules.Proofs.Pipeline.Failure

namespace FieldRules

/-! ## Values that stand for numbers -/

/-- A number, or a text that spells one. -/
def Json.StandsForNumber (v : Json) : Prop :=
  (∃ n, v = .number n) ∨ ∃ text l, v = .text text ∧ Decimal.Spells text l ∧ l.magnitude < Binary64.overflow

theorem Json.asNumber_isSome_iff {v : Json} : v.asNumber.isSome = true ↔ v.StandsForNumber := by
  unfold asNumber StandsForNumber
  cases v with
  | number n => simp
  | text s => simp [Decimal.number?_isSome_iff]
  | _ => simp

/-- Blanks, words and literals that are too great stand for nothing. -/
theorem Json.not_standsForNumber_of_text {text : String}
    (h : Text.isBlankText text = true ∨ Decimal.IsNonFiniteWord (Text.trim text.toList) ∨
      ∃ l, Decimal.Spells text l ∧ Binary64.overflow ≤ l.magnitude) : ¬ (Json.text text).StandsForNumber := by
  rintro (⟨n, hn⟩ | ⟨_, l, ht, hl, hlt⟩)
  · cases hn
  · cases ht
    rcases h with hblank | hword | ⟨l', hl', hoverflow⟩
    · exact Decimal.not_spells_of_isBlankText hblank l hl
    · exact Decimal.not_spells_of_isNonFiniteWord hword l hl
    · -- a text is a literal in one way only as far as its value goes
      have hsome := Decimal.number?_isSome_iff.2 ⟨l, hl, hlt⟩
      rw [Decimal.number?_eq_none_of_overflow hl' hoverflow] at hsome
      cases hsome

/-- What stands for a number is more than blanks. -/
theorem Candidate.isDefined_of_standsForNumber {v : Json} (h : v.StandsForNumber) : isDefined (some v) = true := by
  rcases h with ⟨n, rfl⟩ | ⟨text, l, rfl, hl, -⟩
  · rfl
  · have hblank : ¬ Text.isBlankText text = true := fun hblank => Decimal.not_spells_of_isBlankText hblank l hl
    simpa [isDefined] using hblank

/-! ## Checks of exact values -/

/-- The relation of an exact value to a bound. -/
def Comparison.Relates : Comparison → ℚ → ℚ → Prop
  | atMost, q, b => q ≤ b
  | atLeast, q, b => b ≤ q
  | equal, q, b => q = b
  | above, q, b => b < q
  | below, q, b => q < b

instance (op : Comparison) (q b : ℚ) : Decidable (op.Relates q b) :=
  match op with
  | .atMost => inferInstanceAs (Decidable (q ≤ b))
  | .atLeast => inferInstanceAs (Decidable (b ≤ q))
  | .equal => inferInstanceAs (Decidable (q = b))
  | .above => inferInstanceAs (Decidable (b < q))
  | .below => inferInstanceAs (Decidable (q < b))

/-- What a check asks of an exact value. -/
def NumberCheck.Holds : NumberCheck → ℚ → Prop
  | integer, q => ∃ z : ℤ, q = z
  | compare op bound, q => op.Relates q bound.value
  | between lower upper _, q => lower.value ≤ q ∧ q ≤ upper.value

theorem Comparison.holds_iff {op : Comparison} {x b : Binary64} :
    op.holds x b = true ↔ op.Relates x.value b.value := by
  cases op with
  | atMost => exact decide_eq_true_iff.trans Binary64.le_iff_value
  | atLeast => exact decide_eq_true_iff.trans Binary64.le_iff_value
  | equal => exact Binary64.same_iff_value
  | above => exact decide_eq_true_iff.trans Binary64.lt_iff_value
  | below => exact decide_eq_true_iff.trans Binary64.lt_iff_value

namespace NumberCheck

variable {c : NumberCheck} {v : Json} {x : Binary64}

theorem passes_iff_of_asNumber (h : v.asNumber = some x) : c.passes v = true ↔ c.Holds x.value := by
  cases c with
  | integer => simp only [passes, Json.isIntegral, h, Holds, Binary64.isIntegral_iff]
  | compare op b => simp only [passes, Json.compares, h, Holds, Comparison.holds_iff]
  | between l u _ =>
    simp only [passes, Json.isBetween, h, Holds, Bool.and_eq_true, decide_eq_true_eq, Binary64.le_iff_value]

theorem passes_of_asNumber_eq_none (h : v.asNumber = none) : c.passes v = false := by
  cases c with
  | integer => simp only [passes, Json.isIntegral, h]
  | compare op b => simp only [passes, Json.compares, h]
  | between l u _ => simp only [passes, Json.isBetween, h]

end NumberCheck

/-! ## The order -/

/-- The comparisons of the value with bounds are those of a total order. -/
structure Json.ComparesTotally (v : Json) : Prop where
  trichotomy : ∀ b, [(NumberCheck.compare .below b).passes v, (NumberCheck.compare .equal b).passes v,
    (NumberCheck.compare .above b).passes v].count true = 1
  atMost : ∀ b, (NumberCheck.compare .atMost b).passes v = !(NumberCheck.compare .above b).passes v
  atLeast : ∀ b, (NumberCheck.compare .atLeast b).passes v = !(NumberCheck.compare .below b).passes v
  between : ∀ l u (h : l < u), (NumberCheck.between l u h).passes v =
    ((NumberCheck.compare .atLeast l).passes v && (NumberCheck.compare .atMost u).passes v)
  /-- The value lies on one side of a range or in it. -/
  range : ∀ l u (h : l < u), [(NumberCheck.compare .below l).passes v, (NumberCheck.between l u h).passes v,
    (NumberCheck.compare .above u).passes v].count true = 1
  monotone : ∀ op b b', op = .atMost ∨ op = .below → b ≤ b' →
    (NumberCheck.compare op b).passes v = true → (NumberCheck.compare op b').passes v = true
  antitone : ∀ op b b', op = .atLeast ∨ op = .above → b ≤ b' →
    (NumberCheck.compare op b').passes v = true → (NumberCheck.compare op b).passes v = true

/-- The laws are those of the exact values. -/
theorem Json.comparesTotally_of_asNumber {v : Json} {x : Binary64} (h : v.asNumber = some x) : v.ComparesTotally := by
  have hcompare : ∀ op b, (NumberCheck.compare op b).passes v = decide (op.Relates x.value b.value) := by
    intro op b
    rw [Bool.eq_iff_iff, NumberCheck.passes_iff_of_asNumber h, decide_eq_true_iff]
    rfl
  have hbetween : ∀ l u (hlt : l < u), (NumberCheck.between l u hlt).passes v =
      ((NumberCheck.compare .atLeast l).passes v && (NumberCheck.compare .atMost u).passes v) := by
    intro l u hlt
    rw [Bool.eq_iff_iff, Bool.and_eq_true]
    simp only [NumberCheck.passes_iff_of_asNumber h]
    rfl
  constructor
  case trichotomy =>
    intro b
    rw [hcompare, hcompare, hcompare]
    rcases lt_trichotomy x.value b.value with hlt | heq | hgt
    · simp [Comparison.Relates, hlt, hlt.ne, hlt.not_gt]
    · simp [Comparison.Relates, heq]
    · simp [Comparison.Relates, hgt, hgt.ne', hgt.not_gt]
  case atMost =>
    intro b
    rw [hcompare, hcompare, ← decide_not]
    exact decide_eq_decide.2 not_lt.symm
  case atLeast =>
    intro b
    rw [hcompare, hcompare, ← decide_not]
    exact decide_eq_decide.2 not_lt.symm
  case between => exact hbetween
  case range =>
    intro l u hlt
    have hlu := Binary64.lt_iff_value.1 hlt
    rw [hbetween, hcompare, hcompare, hcompare, hcompare]
    -- below the range, in it, or above it
    rcases lt_or_ge x.value l.value with hl | hl
    · simp [Comparison.Relates, hl, hl.not_ge, (hl.trans hlu).not_gt]
    · rcases lt_or_ge u.value x.value with hu | hu
      · simp [Comparison.Relates, hl.not_gt, hu, hu.not_ge]
      · simp [Comparison.Relates, hl, hl.not_gt, hu, hu.not_gt]
  case monotone =>
    intro op b b' hop hle
    rw [hcompare, hcompare, decide_eq_true_iff, decide_eq_true_iff]
    rw [Binary64.le_iff_value] at hle
    rcases hop with rfl | rfl
    · exact fun hx => le_trans hx hle
    · exact fun hx => lt_of_lt_of_le hx hle
  case antitone =>
    intro op b b' hop hle
    rw [hcompare, hcompare, decide_eq_true_iff, decide_eq_true_iff]
    rw [Binary64.le_iff_value] at hle
    rcases hop with rfl | rfl
    · exact fun hx => le_trans hle hx
    · exact fun hx => lt_of_le_of_lt hle hx

/-! ## Compiled fields -/

/-- What stands for a number passes the gate. -/
theorem Gate.handed?_of_standsForNumber {v : Json} (h : v.StandsForNumber) (g : Gate) : g.handed? (some v) = some v := by
  have hdefined := Candidate.isDefined_of_standsForNumber h
  cases g with
  | required m => exact if_pos hdefined
  | optional =>
    refine if_neg fun habsent => ?_
    rw [Candidate.isDefined_eq_false_iff.2 (Or.inl habsent)] at hdefined
    cases hdefined

/-- A run of a value that ends without a message has come to the steps. -/
theorem Pipeline.handed?_of_run_eq_none {p : Pipeline} {v : Json} (hv : v ≠ .null) (h : p.run (some v) = none) :
    p.gate.handed? (some v) = some v := by
  have hpresent : Candidate.isAbsent (some v) = false := by
    cases v with
    | null => exact absurd rfl hv
    | _ => rfl
  rw [run_eq] at h
  cases hgate : p.gate with
  | required m =>
    rw [hgate] at h
    by_cases hdefined : Candidate.isDefined (some v) = true
    · exact if_pos hdefined
    · simp [Gate.handed?, Gate.missing?, hdefined] at h
  | optional => simp [Gate.handed?, hpresent]

/-- Once it has come to the steps, a value passes when it passes each of them. -/
theorem Pipeline.run_eq_none_iff_of_handed {p : Pipeline} {v : Json} (h : p.gate.handed? (some v) = some v) :
    p.run (some v) = none ↔ ∀ st ∈ p.steps, st.check.passes v = true := by
  have hstep : ∀ st : Step, st.run v = none ↔ st.check.passes v = true := by
    intro st
    simp [Step.run]
  rw [run_of_handed h, List.findSome?_eq_none_iff]
  exact forall₂_congr fun st _ => hstep st

/-- Behind its type check a compiled field of numbers has only checks of numbers. -/
theorem FieldSpec.check_of_number [PatternEngine] {f : FieldSpec} {p : Pipeline} (hp : f.compile = .ok p)
    (htype : p.type = .number) {st : Step} (hst : st ∈ p.steps) :
    st.check = .type .number ∨ ∃ c, st.check = .number c := by
  obtain ⟨m, later, hsteps, -, hlater, -⟩ := (compile_typed hp).steps
  rw [htype] at hsteps hlater
  rw [hsteps] at hst
  rcases List.mem_cons.1 hst with rfl | hst
  · exact Or.inl rfl
  · obtain ⟨e, -, hst⟩ := exists_of_mem_forall₂ hlater hst
    have hfamily := hst.family
    cases hcheck : st.check with
    | number c => exact Or.inr ⟨c, rfl⟩
    | _ =>
      rw [hcheck] at hfamily
      cases hfamily

/-- A compiled field of numbers accepts a value for a number that has what each of its checks asks for. -/
theorem FieldSpec.run_eq_none_iff_of_number [PatternEngine] {f : FieldSpec} {p : Pipeline} {v : Json}
    (hp : f.compile = .ok p) (htype : p.type = .number) (hv : v ≠ .null) : p.run (some v) = none ↔
      ∃ x, v.asNumber = some x ∧ ∀ st ∈ p.steps, ∀ c, st.check = .number c → c.Holds x.value := by
  constructor
  · intro h
    have hpass := (p.run_eq_none_iff_of_handed (p.handed?_of_run_eq_none hv h)).1 h
    obtain ⟨m, later, hsteps, -⟩ := (compile_typed hp).steps
    rw [htype] at hsteps
    have hfirst : v.asNumber.isSome = true := hpass ⟨typeKey, .type .number, m⟩ (hsteps ▸ List.mem_cons_self)
    obtain ⟨x, hx⟩ := Option.isSome_iff_exists.1 hfirst
    refine ⟨x, hx, fun st hst c hc => (NumberCheck.passes_iff_of_asNumber hx).1 ?_⟩
    have hst := hpass st hst
    rw [hc] at hst
    exact hst
  · rintro ⟨x, hx, hholds⟩
    have hstands : v.StandsForNumber := Json.asNumber_isSome_iff.1 (hx ▸ rfl)
    rw [p.run_eq_none_iff_of_handed (p.gate.handed?_of_standsForNumber hstands)]
    intro st hst
    rcases check_of_number hp htype hst with hc | ⟨c, hc⟩
    · rw [hc]
      exact (hx ▸ rfl : v.asNumber.isSome = true)
    · rw [hc]
      exact (NumberCheck.passes_iff_of_asNumber hx).2 (hholds st hst c hc)

/-- Values that stand for numbers compare with bounds as in a total order, and all others fail every check of numbers;
blanks, words for infinities and for what is no number, and literals that are too great are among the others. So a
compiled field of numbers accepts a value only for a number that has what its checks ask for. -/
theorem numberChecks_total [PatternEngine] :
    (∀ v : Json, (∃ x, v.asNumber = some x) ↔ v.StandsForNumber) ∧
    (∀ v : Json, v.StandsForNumber → v.ComparesTotally) ∧
    (∀ v : Json, ¬ v.StandsForNumber →
      (Check.type .number).passes v = false ∧ ∀ c, (Check.number c).passes v = false) ∧
    (∀ text, Text.isBlankText text = true ∨ Decimal.IsNonFiniteWord (Text.trim text.toList) ∨
      (∃ l, Decimal.Spells text l ∧ Binary64.overflow ≤ l.magnitude) → ¬ (Json.text text).StandsForNumber) ∧
    ∀ (f : FieldSpec) (p : Pipeline) (v : Json), f.compile = .ok p → p.type = .number → v ≠ .null →
      (p.run (some v) = none ↔
        ∃ x, v.asNumber = some x ∧ ∀ st ∈ p.steps, ∀ c, st.check = .number c → c.Holds x.value) := by
  have hstands : ∀ v : Json, (∃ x, v.asNumber = some x) ↔ v.StandsForNumber := by
    intro v
    rw [← Option.isSome_iff_exists, Json.asNumber_isSome_iff]
  refine ⟨hstands, fun v hv => ?_, fun v hv => ?_, fun text => Json.not_standsForNumber_of_text,
    fun f p v => FieldSpec.run_eq_none_iff_of_number⟩
  · obtain ⟨x, hx⟩ := (hstands v).2 hv
    exact Json.comparesTotally_of_asNumber hx
  · have hnone : v.asNumber = none := Option.eq_none_iff_forall_ne_some.2 fun x hx => hv ((hstands v).1 ⟨x, hx⟩)
    refine ⟨?_, fun c => NumberCheck.passes_of_asNumber_eq_none hnone⟩
    show v.asNumber.isSome = false
    rw [hnone]
    rfl

/-- On a field with a range from negative zero to one, a half passes as a text, and infinity does not. -/
theorem numberChecks_total_sampleRate : ∃ p, FieldSpec.sampleRate.compile = .ok p ∧
    (Json.text " 0.5 ").ComparesTotally ∧ (Check.type .number).passes (.text "-Infinity") = false ∧
    p.run (some (.text "-Infinity")) ≠ none := by
  obtain ⟨hstands, htotal, hother, htext, hrun⟩ := numberChecks_total
  have hword : ¬ (Json.text "-Infinity").StandsForNumber :=
    htext _ (Or.inr (Or.inl ⟨['-'], "Infinity".toList, Or.inr (Or.inr rfl), rfl, by decide⟩))
  refine ⟨_, rfl, htotal _ ((hstands _).1 ⟨_, rfl⟩), (hother _ hword).1, fun h => hword ?_⟩
  obtain ⟨x, hx, -⟩ := (hrun FieldSpec.sampleRate _ _ rfl rfl (by simp)).1 h
  exact (hstands _).1 ⟨x, hx⟩

end FieldRules
