/-
What a pattern matches. `Pattern.Spans` relates the place of a text where a match begins to the place where it ends,
part by part of the pattern, and the search follows that relation (`Pattern.follows_reach`); so it finds a match exactly
when there is one (`Pattern.isMatch_iff`). A pattern without conditions matches the words of a language, wherever they
stand (`Pattern.HasLanguage`).
-/
import FieldRules.Proofs.Pattern.Places
import Mathlib.Computability.Language

namespace FieldRules

/-! ## Spans -/

/-- A match of the pattern leads from one place of the text to the other. A condition holds between the last character
in front of its place and the first one behind; repetitions are the least number of them and some more. -/
def Pattern.Spans (text : List Char) : Pattern → ℕ → ℕ → Prop
  | empty, i, j => i = j
  | char cls, i, j => (∃ c, text[i]? = some c ∧ cls.contains c.toNat = true) ∧ j = i + 1
  | look kind word, i, j =>
    i = j ∧ i ≤ text.length ∧ kind.holds word (text.take i).getLast? text[i]? = true
  | seq a b, i, j => ∃ m, a.Spans text i m ∧ b.Spans text m j
  | alt a b, i, j => a.Spans text i j ∨ b.Spans text i j
  | times a low high, i, j => ∃ more, (∀ h ∈ high, more ≤ h - low) ∧ Places.Chain (a.Spans text) (low + more) i j
  | capture a, i, j => a.Spans text i j

/-! ## The search -/

theorem Look.testBit_marks {kind : Look} {word : CharClass} {before : Option Char} {text : List Char} {i : ℕ} :
    (Places.ofMarks (kind.marks word before text)).testBit i = true ↔
      i ≤ text.length ∧ kind.holds word ((text.take i).getLast?.or before) text[i]? = true := by
  rw [Places.testBit_ofMarks]
  induction text generalizing before i with
  | nil =>
    cases i with
    | zero => simp [marks]
    | succ i => simp [marks]
  | cons c text ih =>
    cases i with
    | zero => simp [marks]
    | succ i =>
      rw [marks, List.getElem?_cons_succ, ih]
      simp [List.getLast?_cons, Option.or_some]

namespace Pattern

variable {text : List Char} {p a b : Pattern} {i j : ℕ}

theorem reach_times (s : ℕ) (low : ℕ) (high : Option ℕ) : reach text (times a low high) s =
    (high.elim (Places.closure (reach text a) (text.length + 1))
      fun high => Places.upTo (reach text a) (min (high - low) (text.length + 1)))
      (Places.steps (reach text a) (min low (text.length + 1)) s) := by
  cases high with
  | none => rfl
  | some high => rfl

theorem advances_spans (text : List Char) (p : Pattern) : Places.Advances text.length (p.Spans text) := by
  induction p with
  | empty =>
    rintro i j rfl
    exact ⟨le_rfl, Or.inl rfl⟩
  | char cls =>
    rintro i j ⟨⟨c, hc, -⟩, rfl⟩
    have := (List.getElem?_eq_some_iff.1 hc).1
    omega
  | look kind word =>
    rintro i j ⟨rfl, -⟩
    exact ⟨le_rfl, Or.inl rfl⟩
  | seq a b iha ihb =>
    rintro i j ⟨m, him, hmj⟩
    have ha := iha i m him
    have hb := ihb m j hmj
    omega
  | alt a b iha ihb =>
    rintro i j (h | h)
    · exact iha i j h
    · exact ihb i j h
  | times a low high ih =>
    rintro i j ⟨more, -, hchain⟩
    exact ih.chain _ i j hchain
  | capture a ih => exact ih

theorem follows_reach_times (ha : Places.Follows (a.reach text) (a.Spans text)) (low : ℕ) (high : Option ℕ) :
    Places.Follows ((times a low high).reach text) ((times a low high).Spans text) := by
  have hadvances := advances_spans text a
  have hlow : Places.Follows (Places.steps (reach text a) (min low (text.length + 1)))
      (Places.Chain (a.Spans text) low) := (ha.steps _).congr fun i j => hadvances.chain_min low
  have hmore : Places.Follows (high.elim (Places.closure (reach text a) (text.length + 1))
      fun high => Places.upTo (reach text a) (min (high - low) (text.length + 1)))
      fun i j => ∃ more, (∀ h ∈ high, more ≤ h - low) ∧ Places.Chain (a.Spans text) more i j := by
    cases high with
    | none =>
      refine (ha.closure _).congr fun i j => ?_
      rw [hadvances.exists_chain_le]
      simp
    | some h =>
      refine (ha.upTo _).congr fun i j => ?_
      rw [hadvances.exists_chain_le_min]
      simp
  intro s j
  rw [reach_times, hlow.comp hmore s j]
  refine exists_congr fun i => and_congr_right fun _ => ?_
  simp only [Spans, Places.chain_add]
  constructor
  · rintro ⟨m, him, more, hle, hmj⟩
    exact ⟨more, hle, m, him, hmj⟩
  · rintro ⟨more, hle, m, him, hmj⟩
    exact ⟨m, him, more, hle, hmj⟩

/-- The search goes where matches lead. -/
theorem follows_reach (text : List Char) (p : Pattern) : Places.Follows (p.reach text) (p.Spans text) := by
  induction p with
  | empty =>
    intro s j
    simp [reach_empty, Spans]
  | char cls =>
    intro s j
    rw [reach_char, Nat.testBit_shiftLeft, Nat.testBit_and, Places.testBit_ofMarks, List.getElem?_map]
    cases j with
    | zero => simp [Spans]
    | succ j =>
      have hmark : (text[j]?.map fun c => cls.contains c.toNat).getD false = true ↔
          ∃ c, text[j]? = some c ∧ cls.contains c.toNat = true := by
        cases text[j]? <;> simp
      simp [Spans, hmark]
  | look kind word =>
    intro s j
    simp only [reach_look, Spans, Nat.testBit_and, Bool.and_eq_true, Look.testBit_marks, Option.or_none]
    constructor
    · rintro ⟨hj, hlook⟩
      exact ⟨j, hj, rfl, hlook⟩
    · rintro ⟨i, hi, rfl, hlook⟩
      exact ⟨hi, hlook⟩
  | seq a b iha ihb => exact iha.comp ihb
  | alt a b iha ihb => exact iha.union ihb
  | times a low high ih => exact follows_reach_times ih low high
  | capture a ih => exact ih

/-- The search finds a match exactly when there is one. -/
theorem isMatch_iff {p : Pattern} {s : String} :
    p.isMatch s = true ↔ ∃ i j, i ≤ s.toList.length ∧ p.Spans s.toList i j := by
  simp only [isMatch, bne_iff_ne, Places.ne_zero_iff, (follows_reach s.toList p) _ _, Places.testBit_twoPow_sub_one,
    Nat.lt_succ_iff]
  exact exists_comm

/-! ## Languages -/

/-- The texts with a property, as a language. -/
def textsWith (P : List Char → Prop) : Language Char :=
  {w : List Char | P w}

@[simp] theorem mem_textsWith {P : List Char → Prop} {w : List Char} : w ∈ textsWith P ↔ P w :=
  Iff.rfl

/-- A word of the language stands between the two places. -/
def Stands (l : Language Char) (text : List Char) (i j : ℕ) : Prop :=
  ∃ w ∈ l, w <+: text.drop i ∧ j = i + w.length

variable {l m : Language Char}

theorem stands_one : Stands 1 text i j ↔ i = j := by
  simp [Stands, Language.mem_one, eq_comm]

/-- A word and another one behind it stand at a place when the second stands where the first ends. -/
theorem append_prefix_drop_iff {w v : List Char} :
    w ++ v <+: text.drop i ↔ w <+: text.drop i ∧ v <+: text.drop (i + w.length) := by
  rw [← List.drop_drop]
  constructor
  · rintro ⟨rest, hrest⟩
    rw [← hrest]
    simp
  · rintro ⟨⟨rest, hrest⟩, hv⟩
    rw [← hrest, List.drop_left] at hv
    rw [← hrest]
    exact (List.prefix_append_right_inj w).2 hv

theorem stands_mul : Stands (l * m) text i j ↔ ∃ k, Stands l text i k ∧ Stands m text k j := by
  constructor
  · rintro ⟨_, ⟨w, hw, v, hv, rfl⟩, hpre, rfl⟩
    obtain ⟨hpre, hpre'⟩ := append_prefix_drop_iff.1 hpre
    exact ⟨_, ⟨w, hw, hpre, rfl⟩, v, hv, hpre', by rw [List.length_append, Nat.add_assoc]⟩
  · rintro ⟨_, ⟨w, hw, hpre, rfl⟩, v, hv, hpre', rfl⟩
    exact ⟨w ++ v, ⟨w, hw, v, hv, rfl⟩, append_prefix_drop_iff.2 ⟨hpre, hpre'⟩,
      by rw [List.length_append, Nat.add_assoc]⟩

theorem stands_add : Stands (l + m) text i j ↔ Stands l text i j ∨ Stands m text i j := by
  simp only [Stands, Language.mem_add, or_and_right, exists_or]

theorem chain_stands {n : ℕ} : Places.Chain (Stands l text) n i j ↔ Stands (l ^ n) text i j := by
  induction n generalizing i with
  | zero => rw [pow_zero, stands_one, Places.Chain]
  | succ n ih =>
    rw [pow_succ', stands_mul]
    exact exists_congr fun m => and_congr_right fun _ => ih

/-- A whole text stands between its two ends when it is a word. -/
theorem stands_whole : Stands l text 0 text.length ↔ text ∈ l := by
  constructor
  · rintro ⟨w, hw, hpre, hlength⟩
    rw [List.drop_zero] at hpre
    rwa [← hpre.eq_of_length (by omega)]
  · exact fun h => ⟨text, h, List.prefix_rfl, (Nat.zero_add _).symm⟩

/-- The words of so many words of the language one behind the other. -/
def repetitions (l : Language Char) (low : ℕ) (high : Option ℕ) : Language Char :=
  textsWith fun w => ∃ more, (∀ h ∈ high, more ≤ h - low) ∧ w ∈ l ^ (low + more)

/-- Words that are made from something each are made from a list. -/
theorem exists_map_eq {α : Type} {f : α → List Char} {P : α → Prop} {words : List (List Char)}
    (h : ∀ v ∈ words, ∃ x, P x ∧ f x = v) : ∃ xs : List α, xs.map f = words ∧ ∀ x ∈ xs, P x := by
  induction words with
  | nil => exact ⟨[], rfl, List.forall_mem_nil _⟩
  | cons v words ih =>
    obtain ⟨⟨x, hx, rfl⟩, hwords⟩ := List.forall_mem_cons.1 h
    obtain ⟨xs, rfl, hxs⟩ := ih hwords
    exact ⟨x :: xs, rfl, List.forall_mem_cons.2 ⟨hx, hxs⟩⟩

/-- Repetitions as lists of what the words are made from. -/
theorem mem_repetitions {α : Type} {f : α → List Char} {P : α → Prop} (hl : ∀ v, v ∈ l ↔ ∃ x, P x ∧ f x = v) {low : ℕ}
    {high : Option ℕ} (w : List Char) : w ∈ repetitions l low high ↔ ∃ xs : List α, (xs.map f).flatten = w ∧
      low ≤ xs.length ∧ (∀ h ∈ high, xs.length ≤ low + (h - low)) ∧ ∀ x ∈ xs, P x := by
  constructor
  · rintro ⟨more, hmore, hw⟩
    obtain ⟨words, rfl, hlength, hwords⟩ := Language.mem_pow.1 hw
    obtain ⟨xs, rfl, hxs⟩ := exists_map_eq fun v hv => (hl v).1 (hwords v hv)
    rw [List.length_map] at hlength
    exact ⟨xs, rfl, by omega, fun h hh => by have := hmore h hh; omega, hxs⟩
  · rintro ⟨xs, rfl, hlow, hhigh, hxs⟩
    refine ⟨xs.length - low, fun h hh => by have := hhigh h hh; omega, Language.mem_pow.2 ⟨xs.map f, rfl, ?_, ?_⟩⟩
    · rw [List.length_map]
      omega
    · intro v hv
      obtain ⟨x, hx, rfl⟩ := List.mem_map.1 hv
      exact (hl _).2 ⟨x, hxs x hx, rfl⟩

/-- The pattern matches the words of the language, wherever they stand. -/
def HasLanguage (p : Pattern) (l : Language Char) : Prop :=
  ∀ text, p.Spans text = Stands l text

/-- The words of one character of a class. -/
def letters (cls : CharClass) : Language Char :=
  textsWith fun w => ∃ c : Char, cls.contains c.toNat = true ∧ [c] = w

theorem hasLanguage_char (cls : CharClass) : (char cls).HasLanguage (letters cls) := by
  intro text
  funext i j
  have hhead : ∀ c, [c] <+: text.drop i ↔ text[i]? = some c := by
    intro c
    rw [← List.head?_drop, List.head?_eq_some_iff]
    exact exists_congr fun rest => eq_comm
  simp only [Spans, Stands, eq_iff_iff]
  constructor
  · rintro ⟨⟨c, hc, hcls⟩, rfl⟩
    exact ⟨[c], ⟨c, hcls, rfl⟩, (hhead c).2 hc, rfl⟩
  · rintro ⟨_, ⟨c, hcls, rfl⟩, hpre, rfl⟩
    exact ⟨⟨c, (hhead c).1 hpre, hcls⟩, rfl⟩

namespace HasLanguage

theorem congr {P : List Char → Prop} (hp : p.HasLanguage l) (h : ∀ w, w ∈ l ↔ P w) : p.HasLanguage (textsWith P) := by
  rwa [show textsWith P = l from Language.ext fun w => (h w).symm]

theorem seq (ha : a.HasLanguage l) (hb : b.HasLanguage m) : (seq a b).HasLanguage (l * m) := by
  intro text
  funext i j
  rw [stands_mul, ← ha, ← hb]
  rfl

theorem alt (ha : a.HasLanguage l) (hb : b.HasLanguage m) : (alt a b).HasLanguage (l + m) := by
  intro text
  funext i j
  rw [stands_add, ← ha, ← hb]
  rfl

theorem times (ha : a.HasLanguage l) (low : ℕ) (high : Option ℕ) :
    (times a low high).HasLanguage (repetitions l low high) := by
  intro text
  funext i j
  simp only [Spans, ha text, chain_stands, eq_iff_iff]
  constructor
  · rintro ⟨more, hmore, w, hw, hstands⟩
    exact ⟨w, ⟨more, hmore, hw⟩, hstands⟩
  · rintro ⟨w, ⟨more, hmore, hw⟩, hstands⟩
    exact ⟨more, hmore, w, hw, hstands⟩

end HasLanguage

/-- Repeated characters of a class are a text of such characters. -/
theorem hasLanguage_run (cls : CharClass) (low : ℕ) (high : Option ℕ) :
    (times (char cls) low high).HasLanguage (textsWith fun w => low ≤ w.length ∧
      (∀ h ∈ high, w.length ≤ low + (h - low)) ∧ ∀ c ∈ w, cls.contains c.toNat = true) := by
  refine ((hasLanguage_char cls).times low high).congr fun w => ?_
  rw [mem_repetitions (l := letters cls) fun _ => Iff.rfl]
  constructor
  · rintro ⟨cs, rfl, hcs⟩
    rwa [← List.flatMap_def, List.flatMap_singleton']
  · exact fun hw => ⟨w, by rw [← List.flatMap_def, List.flatMap_singleton'], hw⟩

/-! ## The ends of the text -/

theorem spans_textStart {word : CharClass} : (look .textStart word).Spans text i j ↔ i = 0 ∧ j = 0 := by
  simp only [Spans, Look.holds, Option.isNone_iff_eq_none, List.getLast?_eq_none_iff, List.take_eq_nil_iff]
  constructor
  · rintro ⟨rfl, hi, rfl | rfl⟩
    · exact ⟨rfl, rfl⟩
    · exact ⟨Nat.le_zero.1 hi, Nat.le_zero.1 hi⟩
  · rintro ⟨rfl, rfl⟩
    exact ⟨rfl, Nat.zero_le _, Or.inl rfl⟩

theorem spans_textEnd {word : CharClass} :
    (look .textEnd word).Spans text i j ↔ i = text.length ∧ j = text.length := by
  simp only [Spans, Look.holds, Option.isNone_iff_eq_none, List.getElem?_eq_none_iff]
  omega

end Pattern

end FieldRules
