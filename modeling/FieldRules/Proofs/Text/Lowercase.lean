/-
Lower case of a text. Only sigma depends on what is around it, so a part of a text without it is put into lower
case character by character (`lowercaseAfter_append`). Of the two letters with a third form the sign for kelvin
becomes a small letter, and the long s is one already. The sign for kelvin is also the only character whose form is
a letter from a to z without being one of them in either case, so a word without k is the lower case of no more than
its own ways of writing it: `lowercase_eq_iff`.
-/
import FieldRules.Text.Casing
import Mathlib.Data.List.Basic

namespace FieldRules.Text

/-! ## The table -/

/-- The run that holds a code point. -/
def runOf? (runs : List CaseRun) (n : Nat) : Option CaseRun :=
  runs.find? fun r => r.first ≤ n && n ≤ r.last && (n - r.first) % r.step == 0

/-- The runs of the table, with its lines as lists of characters. -/
def runsOf (lines : List (List Char)) : List CaseRun :=
  (lines.flatMap (splitAt ' ')).map CaseRun.ofText

theorem caseRuns_eq {lines : List (List Char)} (h : lowercaseText = lines.map String.ofList) :
    caseRuns = (runsOf lines).toArray := by
  rw [caseRuns, h, List.flatMap_map]
  simp only [String.toList_ofList]
  rfl

theorem cons_eq_map_ofList {line : List Char} {texts : List String} {lines : List (List Char)}
    (h : texts = lines.map String.ofList) : String.ofList line :: texts = (line :: lines).map String.ofList := by
  rw [h, List.map_cons]

/-- The run of the sign for kelvin; the long s is in none, and no other run leads from beyond the first 128 code
points to one of them. The kernel takes long to read texts again and again, so the lines are read once. -/
theorem exists_lines : ∃ lines, lowercaseText = List.map String.ofList lines ∧
    (runOf? (runsOf lines) 0x212a).map (fun r => (r.first, r.target)) = some (0x212a, 0x6b) ∧
    (runOf? (runsOf lines) 0x17f).isNone = true ∧
    (runsOf lines).all (fun r => r.last < 128 || 128 ≤ r.target || (r.first == 0x212a && r.last == 0x212a)) = true := by
  unfold lowercaseText
  apply Exists.intro
  constructor
  · repeat' apply cons_eq_map_ofList
    exact List.map_nil.symm
  · decide +kernel

section
variable {c : Char}

theorem lowercaseChar_of_run {r : CaseRun} (h : 128 ≤ c.toNat) (hdot : c.toNat ≠ 0x130)
    (hr : runOf? caseRuns.toList c.toNat = some r) : lowercaseChar c = [Char.ofNat (c.toNat - r.first + r.target)] := by
  rw [runOf?, Array.find?_toList] at hr
  unfold lowercaseChar
  rw [if_neg (Nat.not_lt.2 h), if_neg hdot, hr]

theorem lowercaseChar_of_no_run (h : 128 ≤ c.toNat) (hdot : c.toNat ≠ 0x130)
    (hnone : runOf? caseRuns.toList c.toNat = none) : lowercaseChar c = [c] := by
  rw [runOf?, Array.find?_toList] at hnone
  unfold lowercaseChar
  rw [if_neg (Nat.not_lt.2 h), if_neg hdot, hnone]

theorem lowercaseChar_of_lt (h : c.toNat < 128) : lowercaseChar c = [c.toLower] := by
  unfold lowercaseChar
  rw [if_pos h]

end

theorem lowercaseChar_kelvin : lowercaseChar '\u212a' = ['k'] := by
  obtain ⟨lines, htext, hrun, -, -⟩ := exists_lines
  obtain ⟨r, hr, heq⟩ := Option.map_eq_some_iff.1 hrun
  rw [Prod.mk.injEq] at heq
  have hpoint : '\u212a'.toNat = 0x212a := rfl
  rw [lowercaseChar_of_run (r := r) (by decide) (by decide) (by rw [caseRuns_eq htext]; exact hr), heq.1, heq.2]
  rfl

theorem lowercaseChar_longS : lowercaseChar '\u017f' = ['\u017f'] := by
  obtain ⟨lines, htext, -, hnone, -⟩ := exists_lines
  refine lowercaseChar_of_no_run (by decide) (by decide) ?_
  rw [caseRuns_eq htext]
  exact Option.isNone_iff_eq_none.1 hnone

/-! ## Plain characters -/

/-- One of the first 128 code points that is the lower-case form of none beyond them. -/
structure IsPlain (d : Char) : Prop where
  lt : d.toNat < 128
  ne_null : d ≠ '\x00'
  ne_k : d ≠ 'k'

theorem isPlain_of_all {cs : List Char}
    (h : (cs.all fun d => decide (d.toNat < 128) && d != '\x00' && d != 'k') = true) : ∀ d ∈ cs, IsPlain d := by
  intro d hd
  have hd := List.all_eq_true.1 h d hd
  simp only [Bool.and_eq_true, decide_eq_true_eq, bne_iff_ne] at hd
  exact ⟨hd.1.1, hd.1.2, hd.2⟩

theorem toNat_lt_of_toLower {c : Char} (h : c.toLower.toNat < 128) : c.toNat < 128 := by
  unfold Char.toLower at h
  split at h
  · next hupper =>
    have hZ : 'Z'.val.toNat = 90 := rfl
    have hle := UInt32.le_iff_toNat_le.1 hupper.2
    rw [hZ] at hle
    exact Nat.lt_of_le_of_lt hle (by decide)
  · exact h

/-- A number beyond the first 128 gives no plain character: what is no code point gives the null character. -/
theorem not_isPlain_ofNat {n : Nat} (h : 128 ≤ n) : ¬ IsPlain (Char.ofNat n) := by
  intro hplain
  by_cases hvalid : n.isValidChar
  · have hpoint : (Char.ofNat n).toNat = n := by
      unfold Char.ofNat
      rw [dif_pos hvalid]
      rfl
    have := hplain.lt
    omega
  · refine hplain.ne_null ?_
    unfold Char.ofNat
    rw [dif_neg hvalid]
    rfl

theorem exists_mem_lowercaseChar {c : Char} (h : 128 ≤ c.toNat) : ∃ d ∈ lowercaseChar c, ¬ IsPlain d := by
  by_cases hdot : c.toNat = 0x130
  · refine ⟨'\u0307', ?_, fun hplain => absurd hplain.lt (by decide)⟩
    unfold lowercaseChar
    rw [if_neg (Nat.not_lt.2 h), if_pos hdot]
    exact List.mem_cons_of_mem _ (List.mem_singleton_self _)
  by_cases hkelvin : c = '\u212a'
  · subst hkelvin
    rw [lowercaseChar_kelvin]
    exact ⟨'k', List.mem_singleton_self _, fun hplain => hplain.ne_k rfl⟩
  cases hr : runOf? caseRuns.toList c.toNat with
  | none =>
    rw [lowercaseChar_of_no_run h hdot hr]
    exact ⟨c, List.mem_singleton_self c, fun hplain => absurd hplain.lt (Nat.not_lt.2 h)⟩
  | some r =>
    obtain ⟨lines, htext, -, -, hall⟩ := exists_lines
    rw [lowercaseChar_of_run h hdot hr]
    refine ⟨_, List.mem_singleton_self _, not_isPlain_ofNat ?_⟩
    rw [caseRuns_eq htext] at hr
    have hin := List.find?_some hr
    have hrun := List.all_eq_true.1 hall r (List.mem_of_find?_eq_some hr)
    simp only [Bool.and_eq_true, Bool.or_eq_true, decide_eq_true_eq, beq_iff_eq] at hin hrun
    rcases hrun with (hlast | htarget) | ⟨hfirst, hlast⟩
    · omega
    · omega
    · -- the run of the sign for kelvin holds nothing else
      have hpoint : c.toNat = '\u212a'.toNat := by
        have : '\u212a'.toNat = 0x212a := rfl
        omega
      exact absurd (Char.toNat_inj.1 hpoint) hkelvin

/-! ## Texts -/

/-- The form of sigma depends on what is around it, but the rest of a text is put into lower case as before. -/
theorem exists_lowercaseAfter_append (before a b : List Char) :
    ∃ lower, lowercaseAfter before (a ++ b) = lower ++ lowercaseAfter (a.reverse ++ before) b := by
  induction a generalizing before with
  | nil => exact ⟨[], rfl⟩
  | cons c a ih =>
    obtain ⟨lower, hlower⟩ := ih (c :: before)
    rw [List.cons_append, lowercaseAfter, hlower, List.reverse_cons, List.append_assoc, List.singleton_append,
      ← List.append_assoc]
    exact ⟨_, rfl⟩

theorem lowercaseAfter_append {a : List Char} {lower : Char → Char}
    (h : ∀ c ∈ a, c ≠ 'Σ' ∧ lowercaseChar c = [lower c]) (before b : List Char) :
    lowercaseAfter before (a ++ b) = a.map lower ++ lowercaseAfter (a.reverse ++ before) b := by
  induction a generalizing before with
  | nil => rfl
  | cons c a ih =>
    obtain ⟨⟨hsigma, hc⟩, h⟩ := List.forall_mem_cons.1 h
    rw [List.cons_append, lowercaseAfter, if_neg hsigma, hc, ih h, List.reverse_cons, List.append_assoc,
      List.singleton_append]
    rfl

/-- A text whose lower case has plain characters only is made of the first 128 code points. -/
theorem toNat_lt_of_lowercaseAfter {before cs : List Char} (h : ∀ d ∈ lowercaseAfter before cs, IsPlain d) :
    ∀ c ∈ cs, c.toNat < 128 := by
  induction cs generalizing before with
  | nil => exact List.forall_mem_nil _
  | cons c cs ih =>
    rw [lowercaseAfter] at h
    obtain ⟨hform, hrest⟩ := List.forall_mem_append.1 h
    refine List.forall_mem_cons.2 ⟨Nat.not_le.1 fun hwide => ?_, ih hrest⟩
    split at hform
    · -- neither form of sigma is plain
      split at hform
      · exact absurd (hform _ (List.mem_singleton_self _)).lt (by decide)
      · exact absurd (hform _ (List.mem_singleton_self _)).lt (by decide)
    · obtain ⟨d, hd, hnot⟩ := exists_mem_lowercaseChar hwide
      exact hnot (hform d hd)

theorem lowercase_of_forall_lt {s : String} (h : ∀ c ∈ s.toList, c.toNat < 128) :
    lowercase s = String.ofList (s.toList.map Char.toLower) := by
  have hlower : ∀ c ∈ s.toList, c ≠ 'Σ' ∧ lowercaseChar c = [c.toLower] := fun c hc =>
    ⟨fun hsigma => absurd (h c hc) (by rw [hsigma]; decide), lowercaseChar_of_lt (h c hc)⟩
  have happend := lowercaseAfter_append hlower [] []
  rw [List.append_nil, lowercaseAfter, List.append_nil] at happend
  rw [lowercase, happend]

/-- The lower case of a text is a plain word exactly if the text is that word in some letter case. -/
theorem lowercase_eq_iff {s word : String} (hword : ∀ d ∈ word.toList, IsPlain d) :
    lowercase s = word ↔ s.toList.map Char.toLower = word.toList := by
  constructor
  · intro h
    have hplain : ∀ d ∈ lowercaseAfter [] s.toList, IsPlain d := by
      rw [← h, lowercase, String.toList_ofList] at hword
      exact hword
    rw [lowercase_of_forall_lt (toNat_lt_of_lowercaseAfter hplain)] at h
    rw [← h, String.toList_ofList]
  · intro h
    have hascii : ∀ c ∈ s.toList, c.toNat < 128 := fun c hc =>
      toNat_lt_of_toLower (hword _ (h ▸ List.mem_map_of_mem hc)).lt
    rw [lowercase_of_forall_lt hascii, h, String.ofList_toList]

end FieldRules.Text
