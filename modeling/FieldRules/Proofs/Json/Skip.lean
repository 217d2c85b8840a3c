/-
Passing over a value. What is passed over is neither decoded nor bounded in its depth, so more texts can be passed over
than read. Wherever a value is read, passing over it ends at the same place: `skipValue_of_spelled`. The skipping
loop keeps the brackets that are open on a stack of its own; `resume` is what it does behind a value, and a value
within others takes a number of rounds that its text is long enough for (`Passes`).
-/
import FieldRules.Proofs.Json.Numeral
import FieldRules.Proofs.Json.Spelling

namespace FieldRules.Json.Cursor

variable {s s' : Cursor}

/-! ## Lengths -/

theorem length_drop (s : Cursor) (n : Nat) : (s.drop n).rest.length = s.rest.length - n :=
  List.length_drop

theorem length_skipBlanks_le (s : Cursor) : s.skipBlanks.rest.length ≤ s.rest.length := by
  rw [skipBlanks, length_drop]
  exact Nat.sub_le _ _

theorem length_of_word {ws : List Char} (h : word ws s = .ok s') : s'.rest.length ≤ s.rest.length := by
  induction ws generalizing s with
  | nil =>
    cases h
    exact le_rfl
  | cons w ws ih =>
    rw [word] at h
    split at h
    · exact (fail_ne_ok h).elim
    · split at h
      · have := ih h
        rw [length_drop] at this
        omega
      · exact (failNext_ne_ok h).elim

/-! ## Texts -/

theorem length_of_hexEscape {n : Nat} (h : s.hexEscape = .ok (n, s')) : s'.rest.length ≤ s.rest.length := by
  unfold hexEscape at h
  split at h
  · cases h
    rw [length_drop]
    exact Nat.sub_le _ _
  · split at h <;> cases h

/-- The character that has to follow is there. -/
theorem pairMark_eq_ok_iff {c : Char} : s.pairMark c = .ok s' ↔ s.rest.head? = some c ∧ s' = s.drop 1 := by
  unfold pairMark
  cases hrest : s.rest with
  | nil => exact ⟨fun h => (fail_ne_ok h).elim, fun h => by cases h.1⟩
  | cons d rest =>
    rw [List.head?_cons, Option.some_inj]
    dsimp only
    split
    · next hd => exact ⟨fun h => by cases h; exact ⟨hd, rfl⟩, fun h => by rw [h.2]⟩
    · next hd => exact ⟨fun h => (failNext_ne_ok h).elim, fun h => (hd h.1).elim⟩

theorem rest_drop_one {c : Char} {rest : List Char} (h : s.rest = c :: rest) : (s.drop 1).rest = rest := by
  rw [drop, h]
  rfl

/-- One escape of four digits is passed over. -/
theorem skipTextFrom_hexEscape {rest : List Char} (hrest : s.rest = '\\' :: 'u' :: rest) {n : Nat}
    (h : ((s.drop 1).drop 1).hexEscape = .ok (n, s')) :
    s'.rest.length + 1 ≤ s.rest.length ∧ ∀ fuel, skipTextFrom (fuel + 1) s = skipTextFrom fuel s' := by
  have hlength := length_of_hexEscape h
  rw [length_drop, length_drop, hrest, List.length_cons, List.length_cons] at hlength
  refine ⟨by rw [hrest, List.length_cons, List.length_cons]; omega, fun fuel => ?_⟩
  have hdrop := rest_drop_one hrest
  rw [skipTextFrom]
  simp only [hrest, hdrop, h, if_neg (by decide : ('\\' : Char) ≠ '"'), if_true]

/-- An escape is passed over in one round, or in two when a surrogate has its partner. -/
theorem skipTextFrom_escape {rest : List Char} (hrest : s.rest = '\\' :: rest) {d : Char}
    (h : (s.drop 1).escape = .ok (d, s')) :
    ∃ k, s'.rest.length + k ≤ s.rest.length ∧ 0 < k ∧ ∀ fuel, skipTextFrom (fuel + k) s = skipTextFrom fuel s' := by
  have hdrop := rest_drop_one hrest
  unfold escape at h
  rw [hdrop] at h
  cases rest with
  | nil => exact (fail_ne_ok h).elim
  | cons c rest =>
    dsimp only at h
    split at h
    · next hc =>
      subst hc
      unfold unicodeEscape at h
      obtain ⟨⟨high, s₁⟩, hhigh, h⟩ := bind_eq_ok_iff.1 h
      obtain ⟨hlength, hskip⟩ := skipTextFrom_hexEscape hrest hhigh
      dsimp only at h
      split at h
      · exact (fail_ne_ok h).elim
      · split at h
        · cases h
          exact ⟨1, hlength, Nat.one_pos, hskip⟩
        · obtain ⟨s₂, hmark, h⟩ := bind_eq_ok_iff.1 h
          obtain ⟨s₃, hletter, h⟩ := bind_eq_ok_iff.1 h
          obtain ⟨⟨low, s₄⟩, hlow, h⟩ := bind_eq_ok_iff.1 h
          dsimp only at h
          split at h
          · exact (fail_ne_ok h).elim
          · obtain rfl : s₄ = s' := congrArg Prod.snd (Except.ok.inj h)
            obtain ⟨hbackslash, rfl⟩ := pairMark_eq_ok_iff.1 hmark
            obtain ⟨hu, rfl⟩ := pairMark_eq_ok_iff.1 hletter
            obtain ⟨rest₁, hrest₁⟩ := List.head?_eq_some_iff.1 hbackslash
            rw [rest_drop_one hrest₁] at hu
            obtain ⟨rest₂, rfl⟩ := List.head?_eq_some_iff.1 hu
            obtain ⟨hlength', hskip'⟩ := skipTextFrom_hexEscape hrest₁ hlow
            exact ⟨2, by omega, Nat.two_pos, fun fuel => (hskip (fuel + 1)).trans (hskip' fuel)⟩
    · next hc =>
      split at h
      · next e hshort =>
        cases h
        refine ⟨1, ?_, Nat.one_pos, fun fuel => ?_⟩
        · rw [length_drop, length_drop, hrest, List.length_cons, List.length_cons]
          omega
        · rw [skipTextFrom]
          simp only [hrest, hdrop, if_neg (by decide : ('\\' : Char) ≠ '"'), if_true, if_neg hc, hshort,
            Option.isSome_some]
      · exact (failNext_ne_ok h).elim

/-- A text that is read is passed over. -/
theorem skipTextFrom_of_textFrom {fuel : Nat} {seen : List Char} {t : String} (h : textFrom fuel seen s = .ok (t, s')) :
    s'.rest.length < s.rest.length ∧ ∀ n, s.rest.length < n → skipTextFrom n s = .ok s' := by
  induction fuel generalizing seen s with
  | zero => exact (fail_ne_ok h).elim
  | succ fuel ih =>
    rw [textFrom] at h
    cases hrest : s.rest with
    | nil =>
      rw [hrest] at h
      exact (fail_ne_ok h).elim
    | cons c rest =>
      have hdrop := rest_drop_one hrest
      rw [List.length_cons]
      simp only [hrest] at h
      split at h
      · next hquote =>
        cases h
        refine ⟨by rw [hdrop]; omega, fun n hn => ?_⟩
        obtain ⟨n, rfl⟩ : ∃ k, n = k + 1 := ⟨n - 1, by omega⟩
        simp only [skipTextFrom, hrest, if_pos hquote]
      · next hquote =>
        split at h
        · next hbackslash =>
          subst hbackslash
          cases hescape : (s.drop 1).escape with
          | error e =>
            rw [hescape] at h
            cases h
          | ok r =>
            rw [hescape] at h
            obtain ⟨k, hlength, hpos, hskip⟩ := skipTextFrom_escape hrest hescape
            obtain ⟨hlength', hskip'⟩ := ih h
            rw [hrest, List.length_cons] at hlength
            refine ⟨by omega, fun n hn => ?_⟩
            obtain ⟨n, rfl⟩ : ∃ m, n = m + k := ⟨n - k, by omega⟩
            rw [hskip, hskip' n (by omega)]
        · next hbackslash =>
          split at h
          · exact (failNext_ne_ok h).elim
          · next hcontrol =>
            obtain ⟨hlength, hskip⟩ := ih h
            rw [hdrop] at hlength hskip
            refine ⟨by omega, fun n hn => ?_⟩
            obtain ⟨n, rfl⟩ : ∃ k, n = k + 1 := ⟨n - 1, by omega⟩
            simp only [skipTextFrom, hrest, if_neg hquote, if_neg hbackslash, if_neg hcontrol]
            exact hskip n (by omega)

theorem skipText_of_text {t : String} (h : s.text = .ok (t, s')) :
    s'.rest.length < s.rest.length ∧ s.skipText = .ok s' := by
  obtain ⟨hlength, hskip⟩ := skipTextFrom_of_textFrom h
  exact ⟨hlength, hskip _ (Nat.lt_succ_self _)⟩

/-! ## Numbers -/

theorem length_digits_le (s : Cursor) : s.digits.2.rest.length ≤ s.rest.length := by
  rw [digits, length_drop]
  exact Nat.sub_le _ _

/-- The sign of a power and what stands behind it. -/
def powerSign (s : Cursor) : Bool × Cursor :=
  match s.rest with
  | '+' :: _ => (false, s.drop 1)
  | '-' :: _ => (true, s.drop 1)
  | _ => (false, s)

/-- The digits of a power behind its sign. -/
def powerBehind (isZero neg : Bool) (s : Cursor) : Except Fault (Option Int × Cursor) :=
  match s.rest with
  | [] => s.fail .endInValue
  | d :: _ =>
    if d.isDigit then
      match powerOverflow s.digits.1 with
      | some k =>
        if !isZero && !neg then (s.drop k).fail .numberOutOfRange
        else .ok (some (-(greatestPower : Int)), s.digits.2)
      | none =>
        let e : Int := Decimal.digitsValue s.digits.1
        .ok (some (if neg then -e else e), s.digits.2)
    else s.failNext .invalidNumber

theorem length_powerSign_le (s : Cursor) : s.powerSign.2.rest.length ≤ s.rest.length := by
  have hone : (s.drop 1).rest.length ≤ s.rest.length := by
    rw [length_drop]
    exact Nat.sub_le _ _
  unfold powerSign
  split
  · exact hone
  · exact hone
  · exact le_rfl

/-- What is read as a power is none, or digits behind a mark and a sign. -/
theorem powerDigits_eq (s : Cursor) : (∀ isZero, s.powerDigits isZero = .ok (none, s)) ∨
    ∀ isZero, s.powerDigits isZero = powerBehind isZero (s.drop 1).powerSign.1 (s.drop 1).powerSign.2 := by
  unfold powerDigits
  split
  · split
    · exact Or.inr fun _ => rfl
    · exact Or.inl fun _ => rfl
  · exact Or.inl fun _ => rfl

theorem powerBehind_true {isZero neg : Bool} {power : Option Int} (h : powerBehind isZero neg s = .ok (power, s')) :
    s' = s.digits.2 ∧ ∃ power', powerBehind true neg s = .ok (power', s') := by
  unfold powerBehind at h ⊢
  cases hrest : s.rest with
  | nil =>
    rw [hrest] at h
    exact (fail_ne_ok h).elim
  | cons d rest =>
    by_cases hdigit : d.isDigit = true
    · cases hover : powerOverflow s.digits.1 with
      | none =>
        simp only [hrest, hdigit, if_true, hover] at h ⊢
        cases h
        exact ⟨rfl, _, rfl⟩
      | some k =>
        simp only [hrest, hdigit, if_true, hover] at h ⊢
        split_ifs at h
        · exact (fail_ne_ok h).elim
        · cases h
          exact ⟨rfl, _, rfl⟩
    · simp only [hrest, if_neg hdigit] at h
      exact (failNext_ne_ok h).elim

/-- Where the power of a number ends does not depend on the digits in front of it. -/
theorem powerDigits_true {isZero : Bool} {power : Option Int} (h : s.powerDigits isZero = .ok (power, s')) :
    s'.rest.length ≤ s.rest.length ∧ ∃ power', s.powerDigits true = .ok (power', s') := by
  rcases powerDigits_eq s with hnone | hsome
  · rw [hnone] at h
    cases h
    exact ⟨le_rfl, none, hnone true⟩
  · rw [hsome] at h ⊢
    obtain ⟨rfl, hpower⟩ := powerBehind_true h
    have hdigits := length_digits_le (s.drop 1).powerSign.2
    have hsign := length_powerSign_le (s.drop 1)
    rw [length_drop] at hsign
    exact ⟨by omega, hpower⟩

theorem length_of_wholeDigits {whole : List Char} (h : s.wholeDigits = .ok (whole, s')) :
    s'.rest.length < s.rest.length := by
  unfold wholeDigits at h
  cases hrest : s.rest with
  | nil =>
    rw [hrest] at h
    exact (fail_ne_ok h).elim
  | cons c rest =>
    simp only [hrest] at h
    split_ifs at h with hzero hdigit hdigit
    · exact (failNext_ne_ok h).elim
    · cases h
      rw [length_drop, hrest]
      exact Nat.lt_succ_self _
    · cases h
      rw [length_drop, hrest, List.takeWhile_cons_of_pos hdigit, List.length_cons, List.length_cons]
      omega
    · exact (failNext_ne_ok h).elim

theorem length_of_fractionDigits {fraction : Option (List Char)} (h : s.fractionDigits = .ok (fraction, s')) :
    s'.rest.length ≤ s.rest.length := by
  unfold fractionDigits at h
  split at h
  · have hdigits := length_digits_le (s.drop 1)
    rw [length_drop] at hdigits
    dsimp only at h
    split_ifs at h
    · exact (fail_ne_ok h).elim
    · exact (failNext_ne_ok h).elim
    · cases h
      omega
  · cases h
    exact le_rfl

theorem real_eq {neg : Bool} {n : Nat} {e : Int} {x : Number} (h : s.real neg n e = .ok (x, s')) : s' = s := by
  unfold real at h
  split at h
  · cases h
    rfl
  · exact (fail_ne_ok h).elim

/-- A number that is read is passed over. -/
theorem skipNumber_of_number {neg : Bool} {x : Number} (h : s.number neg = .ok (x, s')) :
    s'.rest.length < s.rest.length ∧ s.skipNumber = .ok s' := by
  unfold number at h
  obtain ⟨⟨whole, s₁⟩, hwhole, h⟩ := bind_eq_ok_iff.1 h
  obtain ⟨⟨fraction, s₂⟩, hfraction, h⟩ := bind_eq_ok_iff.1 h
  obtain ⟨⟨power, s₃⟩, hpower, h⟩ := bind_eq_ok_iff.1 h
  obtain ⟨hlength, power', hpower'⟩ := powerDigits_true hpower
  have hs : s' = s₃ := by
    dsimp only at h
    split at h
    · split at h
      · cases h
        rfl
      · exact real_eq h
    · exact real_eq h
  subst hs
  have hlength' := (hlength.trans (length_of_fractionDigits hfraction)).trans_lt (length_of_wholeDigits hwhole)
  refine ⟨hlength', ?_⟩
  unfold skipNumber
  simp only [hwhole, hfraction, hpower', bind, Except.bind]

/-! ## Between values -/

theorem skipBlanks_eq (s : Cursor) :
    s.skipBlanks = ⟨s.rest.dropWhile isBlank, s.place.skipAll (s.rest.takeWhile isBlank)⟩ := by
  have hdrop := drop_append (s.rest.takeWhile isBlank) (s.rest.dropWhile isBlank) s.place
  rw [List.takeWhile_append_dropWhile] at hdrop
  exact hdrop

theorem skipBlanks_skipBlanks (s : Cursor) : s.skipBlanks.skipBlanks = s.skipBlanks := by
  have hstops : Stops isBlank s.skipBlanks.rest := by
    intro c hc
    rw [skipBlanks_eq] at hc
    have hnot := List.head?_dropWhile_not isBlank s.rest
    rw [hc] at hnot
    simpa using hnot
  rw [skipBlanks, hstops.takeWhile_eq_nil]
  rfl

/-- The brackets that end a list and an object. -/
def closing (inList : Bool) : Char :=
  if inList then ']' else '\x7d'

/-- Enough fuel for the text is enough. -/
theorem skipBetween_congr {fuel fuel' : Nat} (h : s.rest.length < fuel) (h' : s.rest.length < fuel') (afterItem : Bool)
    (within : List Bool) : skipBetween fuel afterItem within s = skipBetween fuel' afterItem within s := by
  induction fuel generalizing fuel' afterItem within s with
  | zero => exact (Nat.not_lt_zero _ h).elim
  | succ fuel ih =>
    obtain ⟨fuel', rfl⟩ : ∃ k, fuel' = k + 1 := ⟨fuel' - 1, by omega⟩
    cases within with
    | nil => rfl
    | cons inList outer =>
      have hblanks := length_skipBlanks_le s
      have hrest : ∀ c rest, s.skipBlanks.rest = c :: rest → skipBetween fuel true outer (s.skipBlanks.drop 1) =
          skipBetween fuel' true outer (s.skipBlanks.drop 1) := by
        intro c rest hrest
        rw [hrest, List.length_cons] at hblanks
        exact ih (by rw [rest_drop_one hrest]; omega) (by rw [rest_drop_one hrest]; omega) true outer
      rw [skipBetween, skipBetween]
      cases hs : s.skipBlanks.rest with
      | nil => rfl
      | cons c rest => rw [hrest c rest hs]

/-- What is done behind a value, or, if none has been read, behind the bracket that opens a list or an object. -/
def resume (afterItem : Bool) (fuel : Nat) (within : List Bool) (s : Cursor) : Except Fault Cursor := do
  match ← skipBetween (s.rest.length + 1) afterItem within s with
  | (none, s) => .ok s
  | (some within, s) => skipFrom fuel within s

variable {fuel : Nat} {within : List Bool} {first : Bool}

theorem resume_nil : resume true fuel [] s = .ok s :=
  rfl

/-- At a closing bracket the list or the object is left. -/
theorem resume_closing {inList : Bool} (h : s.skipBlanks.rest.head? = some (closing inList)) (afterItem : Bool) :
    resume afterItem fuel (inList :: within) s = resume true fuel within (s.skipBlanks.drop 1) := by
  obtain ⟨rest, hrest⟩ := List.head?_eq_some_iff.1 h
  have hcomma : closing inList ≠ ',' := by cases inList <;> decide
  have hlength := length_skipBlanks_le s
  rw [hrest, List.length_cons] at hlength
  have hstep : skipBetween (s.rest.length + 1) afterItem (inList :: within) s =
      skipBetween ((s.skipBlanks.drop 1).rest.length + 1) true within (s.skipBlanks.drop 1) := by
    have hfuel : (s.skipBlanks.drop 1).rest.length < s.rest.length := by
      rw [rest_drop_one hrest]
      omega
    rw [skipBetween_congr (Nat.lt_succ_self _) hfuel, skipBetween]
    simp only [hrest, decide_eq_false hcomma, Bool.false_and, Bool.false_eq_true, if_false]
    rw [if_pos (by cases inList <;> rfl)]
  rw [resume, hstep]
  rfl

/-- Where the next part of a list or an object begins, behind a comma unless it is the first one. -/
def behindComma (first : Bool) (s : Cursor) : Cursor :=
  if first then s.skipBlanks else s.skipBlanks.drop 1

theorem length_behindComma_le (first : Bool) (s : Cursor) : (behindComma first s).rest.length ≤ s.rest.length := by
  have hblanks := length_skipBlanks_le s
  unfold behindComma
  split
  · exact hblanks
  · rw [length_drop]
    omega

/-- Another part follows: there is no closing bracket, and there is a comma unless the part is the first one. -/
def Continues (inList first : Bool) (s : Cursor) : Prop :=
  ∃ c rest, s.skipBlanks.rest = c :: rest ∧ c ≠ closing inList ∧ (first = false → c = ',')

theorem nextItem_eq_none (h : s.nextItem first = .ok (none, s')) :
    s' = s.skipBlanks ∧ s.skipBlanks.rest.head? = some (closing true) := by
  unfold nextItem at h
  dsimp only at h
  split at h
  · exact (fail_ne_ok h).elim
  · next c rest hrest =>
    split_ifs at h with hclose
    · cases h
      rw [hrest, hclose]
      exact ⟨rfl, rfl⟩
    · cases h
    · split at h
      · exact (fail_ne_ok h).elim
      · split_ifs at h
        · exact (failNext_ne_ok h).elim
        · cases h
    · exact (failNext_ne_ok h).elim

theorem nextItem_eq_some {start s₀ : Cursor} (h : s.nextItem first = .ok (some start, s₀)) :
    Continues true first s ∧ start = (behindComma first s).skipBlanks := by
  unfold nextItem at h
  dsimp only at h
  split at h
  · exact (fail_ne_ok h).elim
  · next c rest hrest =>
    split_ifs at h with hclose hfirst hcomma
    · cases h
    · cases h
      subst hfirst
      exact ⟨⟨c, rest, hrest, hclose, nofun⟩, (skipBlanks_skipBlanks s).symm⟩
    · have hcontinues : Continues true first s := ⟨c, rest, hrest, hclose, fun _ => hcomma⟩
      rw [Bool.not_eq_true] at hfirst
      subst hfirst
      split at h
      · exact (fail_ne_ok h).elim
      · split_ifs at h
        · exact (failNext_ne_ok h).elim
        · cases h
          exact ⟨hcontinues, rfl⟩
    · exact (failNext_ne_ok h).elim

theorem nextKey_eq_none (h : s.nextKey first = .ok (none, s')) :
    s' = s.skipBlanks ∧ s.skipBlanks.rest.head? = some (closing false) := by
  unfold nextKey at h
  dsimp only at h
  split at h
  · exact (fail_ne_ok h).elim
  · next c rest hrest =>
    split_ifs at h with hclose
    · cases h
      rw [hrest, hclose]
      exact ⟨rfl, rfl⟩
    · cases h
    · exact (failNext_ne_ok h).elim
    · split at h
      · exact (fail_ne_ok h).elim
      · split_ifs at h
        · cases h
        · exact (failNext_ne_ok h).elim
        · exact (failNext_ne_ok h).elim
    · exact (failNext_ne_ok h).elim

theorem nextKey_eq_some {start s₀ : Cursor} (h : s.nextKey first = .ok (some start, s₀)) :
    Continues false first s ∧ (behindComma first s).skipBlanks.rest.head? = some '"' ∧
      start = (behindComma first s).skipBlanks.drop 1 := by
  unfold nextKey at h
  dsimp only at h
  split at h
  · exact (fail_ne_ok h).elim
  · next c rest hrest =>
    split_ifs at h with hclose hfirst hquote hcomma
    · cases h
    · cases h
      subst hfirst
      have hbehind : (behindComma true s).skipBlanks = s.skipBlanks := skipBlanks_skipBlanks s
      rw [hbehind, hrest, hquote]
      exact ⟨⟨c, rest, hrest, hclose, nofun⟩, rfl, rfl⟩
    · exact (failNext_ne_ok h).elim
    · have hcontinues : Continues false first s := ⟨c, rest, hrest, hclose, fun _ => hcomma⟩
      rw [Bool.not_eq_true] at hfirst
      subst hfirst
      split at h
      · exact (fail_ne_ok h).elim
      · next d rest' hrest' =>
        split_ifs at h with hquote
        · cases h
          have hbehind : (behindComma false s).skipBlanks.rest = d :: rest' := hrest'
          rw [hbehind, hquote]
          exact ⟨hcontinues, rfl, rfl⟩
        · exact (failNext_ne_ok h).elim
        · exact (failNext_ne_ok h).elim
    · exact (failNext_ne_ok h).elim

theorem skipBetween_item (h : Continues true first s) :
    skipBetween (s.rest.length + 1) (!first) (true :: within) s = .ok (some (true :: within), behindComma first s) := by
  obtain ⟨c, rest, hrest, hclose, hcomma⟩ := h
  have hclose' : c ≠ ']' := hclose
  rw [skipBetween]
  cases first with
  | true => simp [hrest, hclose', behindComma]
  | false => simp [hrest, hcomma rfl, behindComma]

theorem skipBetween_key {s₁ s₂ : Cursor} (h : Continues false first s)
    (hquote : (behindComma first s).skipBlanks.rest.head? = some '"')
    (htext : ((behindComma first s).skipBlanks.drop 1).skipText = .ok s₁) (hcolon : s₁.colon = .ok s₂) :
    skipBetween (s.rest.length + 1) (!first) (false :: within) s = .ok (some (false :: within), s₂) := by
  obtain ⟨c, rest, hrest, hclose, hcomma⟩ := h
  obtain ⟨rest', hrest'⟩ := List.head?_eq_some_iff.1 hquote
  have hclose' : c ≠ '\x7d' := hclose
  rw [skipBetween]
  cases first with
  | true =>
    have hbehind : behindComma true s = s.skipBlanks := rfl
    rw [hbehind] at hrest' htext
    simp [hrest, hclose', hrest', htext, hcolon, bind, Except.bind]
  | false =>
    have hbehind : behindComma false s = s.skipBlanks.drop 1 := rfl
    rw [hbehind] at hrest' htext
    simp [hrest, hcomma rfl, hrest', htext, hcolon, bind, Except.bind]

theorem resume_of_skipBetween {afterItem : Bool} {within' : List Bool}
    (h : skipBetween (s.rest.length + 1) afterItem within s = .ok (some within', s')) :
    resume afterItem fuel within s = skipFrom fuel within' s' := by
  rw [resume, h]
  rfl

theorem skipFrom_skipBlanks (fuel : Nat) (within : List Bool) (s : Cursor) :
    skipFrom (fuel + 1) within s.skipBlanks = skipFrom (fuel + 1) within s := by
  rw [skipFrom, skipFrom, skipBlanks_skipBlanks]

/-! ## Values -/

/-- From one place to the other the loop passes over a value, whatever the value stands in. It takes rounds for that,
but not more of them than there are characters. -/
def Passes (s s' : Cursor) : Prop :=
  ∃ k, s'.rest.length + (k + 1) ≤ s.rest.length ∧
    ∀ fuel within, skipFrom (fuel + (k + 1)) within s = resume true fuel within s'

/-- The same for what follows an opening bracket or a part, up to the end of the list or the object. -/
def PassesRest (inList first : Bool) (s s' : Cursor) : Prop :=
  ∃ k, s'.rest.length + k < s.rest.length ∧
    ∀ fuel within, resume (!first) (fuel + k) (inList :: within) s = resume true fuel within s'

theorem Passes.blanks (h : Passes s.skipBlanks s') : Passes s s' := by
  obtain ⟨k, hlength, hskip⟩ := h
  refine ⟨k, hlength.trans (length_skipBlanks_le s), fun fuel within => ?_⟩
  rw [← hskip, ← Nat.add_assoc, skipFrom_skipBlanks]

theorem passesRest_closing {inList : Bool} (h : s.skipBlanks.rest.head? = some (closing inList)) :
    PassesRest inList first s (s.skipBlanks.drop 1) := by
  refine ⟨0, ?_, fun fuel within => resume_closing h (!first)⟩
  obtain ⟨rest, hrest⟩ := List.head?_eq_some_iff.1 h
  have hlength := length_skipBlanks_le s
  rw [hrest, List.length_cons] at hlength
  rw [rest_drop_one hrest]
  omega

/-- A part and what follows it. -/
theorem PassesRest.part {inList : Bool} {start s₁ : Cursor} (hlength : start.rest.length ≤ s.rest.length)
    (hbetween : ∀ within, skipBetween (s.rest.length + 1) (!first) (inList :: within) s =
      .ok (some (inList :: within), start))
    (hpart : Passes start s₁) (hrest : PassesRest inList false s₁ s') : PassesRest inList first s s' := by
  obtain ⟨k, hk, hskip⟩ := hpart
  obtain ⟨k', hk', hresume⟩ := hrest
  refine ⟨k' + (k + 1), by omega, fun fuel within => ?_⟩
  rw [resume_of_skipBetween (hbetween within), ← Nat.add_assoc, hskip, ← hresume]
  rfl

variable {α : Type}

theorem closeList_eq (h : s.skipBlanks.rest.head? = some ']') :
    s.skipBlanks.closeList = .ok (s.skipBlanks.drop 1) := by
  obtain ⟨rest, hrest⟩ := List.head?_eq_some_iff.1 h
  unfold closeList
  rw [skipBlanks_skipBlanks]
  simp only [hrest, if_true]

theorem closeObject_eq (h : s.skipBlanks.rest.head? = some '\x7d') :
    s.skipBlanks.closeObject = .ok (s.skipBlanks.drop 1) := by
  obtain ⟨rest, hrest⟩ := List.head?_eq_some_iff.1 h
  unfold closeObject
  rw [skipBlanks_skipBlanks]
  simp only [hrest, if_true]

theorem length_of_colon (h : s.colon = .ok s') : s'.rest.length ≤ s.rest.length := by
  unfold colon at h
  dsimp only at h
  split at h
  · exact (fail_ne_ok h).elim
  · split_ifs at h
    · cases h
      have := length_skipBlanks_le s
      rw [length_drop]
      omega
    · exact (failNext_ne_ok h).elim

theorem passesRest_items {item : Cursor → Except Fault (α × Cursor)}
    (hitem : ∀ {s a s'}, item s = .ok (a, s') → Passes s s') {fuel : Nat} {vs : List α} {s₁ : Cursor}
    (h : items item fuel first s = .ok (vs, s₁)) (hclose : s₁.closeList = .ok s') : PassesRest true first s s' := by
  induction fuel generalizing first s vs with
  | zero => exact (fail_ne_ok h).elim
  | succ fuel ih =>
    rcases items_succ_eq_ok_iff.1 h with ⟨hnext, rfl⟩ | ⟨start, s₀, a, s₂, rest, hnext, ha, hrest, rfl⟩
    · obtain ⟨rfl, hhead⟩ := nextItem_eq_none hnext
      obtain rfl : s.skipBlanks.drop 1 = s' := Except.ok.inj ((closeList_eq hhead).symm.trans hclose)
      exact passesRest_closing hhead
    · obtain ⟨hcontinues, rfl⟩ := nextItem_eq_some hnext
      exact .part (length_behindComma_le first s) (fun _ => skipBetween_item hcontinues) (hitem ha).blanks (ih hrest)

theorem passesRest_members {content : Cursor → Except Fault (α × Cursor)}
    (hcontent : ∀ {s a s'}, content s = .ok (a, s') → Passes s s') {fuel : Nat} {seen : List String}
    {ms : List (String × α)} {s₁ : Cursor}
    (h : members (fun _ _ s => do content (← s.colon)) fuel seen s = .ok (ms, s₁)) (hclose : s₁.closeObject = .ok s') :
    PassesRest false seen.isEmpty s s' := by
  induction fuel generalizing seen s ms with
  | zero => exact (fail_ne_ok h).elim
  | succ fuel ih =>
    rcases members_succ_eq_ok_iff.1 h with
      ⟨hnext, rfl⟩ | ⟨start, s₀, key, s₂, s₃, a, s₄, rest, hnext, hkey, hcolon, ha, hrest, rfl⟩
    · obtain ⟨rfl, hhead⟩ := nextKey_eq_none hnext
      obtain rfl : s.skipBlanks.drop 1 = s' := Except.ok.inj ((closeObject_eq hhead).symm.trans hclose)
      exact passesRest_closing hhead
    · obtain ⟨hcontinues, hquote, rfl⟩ := nextKey_eq_some hnext
      obtain ⟨hlength, htext⟩ := skipText_of_text hkey
      have hlength' : s₃.rest.length ≤ s.rest.length := by
        have hbehind := length_behindComma_le seen.isEmpty s
        have hblanks := length_skipBlanks_le (behindComma seen.isEmpty s)
        have hcolon := length_of_colon hcolon
        rw [length_drop] at hlength
        omega
      exact .part hlength' (fun _ => skipBetween_key hcontinues hquote htext hcolon) (hcontent ha) (ih hrest)

/-- The reader of every kind of value without parts has one that passes over it, in one round of the loop. -/
theorem passes_of_round {x : Except Fault Cursor} (hx : x = .ok s') (hlength : s'.rest.length < s.rest.length)
    (hskip : ∀ fuel within, skipFrom (fuel + 1) within s = x >>= resume true fuel within) : Passes s s' := by
  subst hx
  exact ⟨0, hlength, hskip⟩

theorem word_of_map {ws : List Char} {v w : Json} (h : (word ws s).map (fun s => (w, s)) = .ok (v, s')) :
    word ws s = .ok s' ∧ s'.rest.length ≤ s.rest.length := by
  obtain ⟨s₁, hword, he⟩ := map_eq_ok_iff.1 h
  cases he
  exact ⟨hword, length_of_word hword⟩

theorem passes_of_scalar? {v : Json} (h : s.skipBlanks.scalar? = some (.ok (v, s'))) : Passes s s' := by
  have hblanks := length_skipBlanks_le s
  unfold scalar? at h
  cases hrest : s.skipBlanks.rest with
  | nil =>
    rw [hrest] at h
    cases h
  | cons c rest =>
    have hdrop := rest_drop_one hrest
    rw [hrest, List.length_cons] at hblanks
    simp only [hrest] at h
    split_ifs at h with hn ht hf hminus hdigit hquote
    · obtain ⟨hskip, hlength⟩ := word_of_map (Option.some.inj h)
      rw [hdrop] at hlength
      refine passes_of_round hskip (by omega) fun fuel within => ?_
      rw [skipFrom, hskip]
      simp only [hrest, if_pos hn]
      rfl
    · obtain ⟨hskip, hlength⟩ := word_of_map (Option.some.inj h)
      rw [hdrop] at hlength
      refine passes_of_round hskip (by omega) fun fuel within => ?_
      rw [skipFrom, hskip]
      simp only [hrest, if_neg hn, if_pos ht]
      rfl
    · obtain ⟨hskip, hlength⟩ := word_of_map (Option.some.inj h)
      rw [hdrop] at hlength
      refine passes_of_round hskip (by omega) fun fuel within => ?_
      rw [skipFrom, hskip]
      simp only [hrest, if_neg hn, if_neg ht, if_pos hf]
      rfl
    · obtain ⟨⟨n, s₁⟩, hnumber, he⟩ := map_eq_ok_iff.1 (Option.some.inj h)
      obtain rfl : s₁ = s' := congrArg Prod.snd he
      obtain ⟨hlength, hskip⟩ := skipNumber_of_number hnumber
      rw [hdrop] at hlength
      refine passes_of_round hskip (by omega) fun fuel within => ?_
      rw [skipFrom, hskip]
      simp only [hrest, if_neg hn, if_neg ht, if_neg hf, if_pos hminus]
      rfl
    · obtain ⟨⟨n, s₁⟩, hnumber, he⟩ := map_eq_ok_iff.1 (Option.some.inj h)
      obtain rfl : s₁ = s' := congrArg Prod.snd he
      obtain ⟨hlength, hskip⟩ := skipNumber_of_number hnumber
      rw [hrest, List.length_cons] at hlength
      refine passes_of_round hskip (by omega) fun fuel within => ?_
      rw [skipFrom, hskip]
      simp only [hrest, if_neg hn, if_neg ht, if_neg hf, if_neg hminus, if_pos hdigit]
      rfl
    · obtain ⟨⟨text, s₁⟩, htext, he⟩ := map_eq_ok_iff.1 (Option.some.inj h)
      obtain rfl : s₁ = s' := congrArg Prod.snd he
      obtain ⟨hlength, hskip⟩ := skipText_of_text htext
      rw [hdrop] at hlength
      refine passes_of_round hskip (by omega) fun fuel within => ?_
      rw [skipFrom, hskip]
      simp only [hrest, if_neg hn, if_neg ht, if_neg hf, if_neg hminus, if_neg hdigit, if_pos hquote]
      rfl

/-- The brackets that begin a list and an object. -/
def opening (inList : Bool) : Char :=
  if inList then '[' else '\x7b'

theorem passes_opening (inList : Bool) (h : s.skipBlanks.rest.head? = some (opening inList))
    (hrest : PassesRest inList true (s.skipBlanks.drop 1) s') : Passes s s' := by
  obtain ⟨rest, hhead⟩ := List.head?_eq_some_iff.1 h
  obtain ⟨k, hk, hresume⟩ := hrest
  have hblanks := length_skipBlanks_le s
  rw [hhead, List.length_cons] at hblanks
  rw [rest_drop_one hhead] at hk
  refine ⟨k, by omega, fun fuel within => ?_⟩
  rw [← hresume, ← Nat.add_assoc, skipFrom]
  cases inList <;> simp only [hhead, opening] <;> rfl

/-- A value that is read is passed over. -/
theorem passes_of_spelled {d : Nat} {t : Json} (h : spelled d s = .ok (t, s')) : Passes s s' := by
  induction d generalizing s t s' with
  | zero => exact (failNext_ne_ok h).elim
  | succ d ih =>
    rcases valueWith_succ_eq_ok_iff.1 h with hscalar | ⟨hhead, -, vs, hvs, -⟩ | ⟨hhead, -, ms, hms, -⟩
    · exact passes_of_scalar? hscalar
    · obtain ⟨⟨vs', s₁⟩, hitems, hclose⟩ := bind_eq_ok_iff.1 hvs
      obtain ⟨s₂, hclose, he⟩ := bind_eq_ok_iff.1 hclose
      cases he
      exact passes_opening true hhead (passesRest_items ih hitems hclose)
    · obtain ⟨⟨ms', s₁⟩, hmembers, hclose⟩ := bind_eq_ok_iff.1 hms
      obtain ⟨s₂, hclose, he⟩ := bind_eq_ok_iff.1 hclose
      cases he
      exact passes_opening false hhead (passesRest_members ih hmembers hclose)

theorem skipValue_of_spelled {d : Nat} {t : Json} (h : spelled d s = .ok (t, s')) : s.skipValue = .ok s' := by
  obtain ⟨k, hk, hskip⟩ := passes_of_spelled h
  obtain ⟨fuel, hfuel⟩ : ∃ fuel, s.rest.length + 1 = fuel + (k + 1) := ⟨s.rest.length - k, by omega⟩
  rw [skipValue, hfuel, hskip, resume_nil]

end FieldRules.Json.Cursor
