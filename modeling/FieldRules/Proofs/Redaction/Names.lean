/-
The names of secrets. A text masks what is assigned to a marker, and a record masks what stands under a sensitive
key. Keys are searched for six of the nine markers, in lower case, which is no longer a marker when it has a long s
(`isSensitiveKey_iff_isKnown`). So a name may announce a secret in a text without being sensitive as a key:
`nameJudged`.
-/
import FieldRules.Proofs.Redaction.Repetition
import FieldRules.Proofs.Text.Lowercase
import Mathlib.Data.List.TakeWhile

namespace FieldRules.Redaction

/-! ## Markers as keys -/

/-- The markers that keys are searched for as well. -/
def sharedMarkers : List (List Char) :=
  ["api_key", "apikey", "token", "password", "passwd", "secret"].map String.toList

/-- A marker that makes a key sensitive: one of the shared ones, without the letter that lower case keeps. -/
structure IsKnown (u : List Char) : Prop where
  mem_sharedMarkers : u.map fold ∈ sharedMarkers
  not_mem : '\u017f' ∉ u

/-- The lower-case form of a character in a marker. -/
def lowered (c : Char) : Char :=
  if c = '\u017f' then c else fold c

section
variable {k u : List Char} {c : Char}

theorem IsKnown.isMarker (h : IsKnown u) : IsMarker u := by
  have hsub : ∀ m ∈ sharedMarkers, m ∈ markers := by decide
  exact hsub _ h.mem_sharedMarkers

theorem IsMarker.lowercaseChar (h : IsMarker u) (hc : c ∈ u) :
    c ≠ 'Σ' ∧ Text.lowercaseChar c = [lowered c] := by
  have hsmall : ∀ m ∈ markers, m.all (fun p => p.toNat < 128) = true := by decide
  simp only [List.all_eq_true, decide_eq_true_eq] at hsmall
  have hfold := hsmall _ h _ (List.mem_map_of_mem hc)
  by_cases hs : c = '\u017f'
  · subst hs
    exact ⟨by decide, Text.lowercaseChar_longS⟩
  · rw [lowered, if_neg hs]
    by_cases hk : c = '\u212a'
    · subst hk
      exact ⟨by decide, Text.lowercaseChar_kelvin⟩
    · rw [fold, if_neg hk, if_neg hs] at hfold ⊢
      have hascii := Text.toNat_lt_of_toLower hfold
      refine ⟨?_, Text.lowercaseChar_of_lt hascii⟩
      rintro rfl
      exact absurd hascii (by decide)

/-- What a key is searched in holds the markers that stand in the key. -/
theorem IsMarker.lowered_infix (h : IsMarker u) {cs : List Char} (hu : u <:+: cs) :
    u.map lowered <:+: Text.lowercaseAfter [] cs := by
  obtain ⟨a, b, rfl⟩ := hu
  obtain ⟨lower, hlower⟩ := Text.exists_lowercaseAfter_append [] a (u ++ b)
  rw [List.append_assoc, hlower, Text.lowercaseAfter_append fun c hc => h.lowercaseChar hc]
  exact ⟨lower, _, by rw [List.append_assoc]⟩

theorem isSensitiveKey_iff (k : String) : isSensitiveKey k = true ↔
    ∃ m ∈ keyMarkers, m.toList <:+: Text.lowercaseAfter [] k.toList := by
  rw [isSensitiveKey, Text.lowercase, String.toList_ofList, List.any_eq_true]
  simp only [Text.occursIn_iff]

theorem map_lowered_of_not_mem (h : '\u017f' ∉ u) : u.map lowered = u.map fold :=
  List.map_congr_left fun _ hc => if_neg (ne_of_mem_of_not_mem hc h)

theorem IsKnown.isSensitiveKey {k : String} (h : IsKnown u) (hu : u <:+: k.toList) :
    isSensitiveKey k = true := by
  have hwords : ∀ m ∈ sharedMarkers, ∃ w ∈ keyMarkers, w.toList = m := by decide
  obtain ⟨w, hw, hword⟩ := hwords _ h.mem_sharedMarkers
  refine (isSensitiveKey_iff k).2 ⟨w, hw, ?_⟩
  rw [hword, ← map_lowered_of_not_mem h.not_mem]
  exact h.isMarker.lowered_infix hu

theorem IsMarker.map_fold_lowered (h : IsMarker u) : (u.map lowered).map fold = u.map fold := by
  have hfixed : ∀ m ∈ markers, m.all (fun p => fold p = p) = true := by decide
  simp only [List.all_eq_true, decide_eq_true_eq] at hfixed
  rw [List.map_map]
  refine List.map_congr_left fun c hc => ?_
  by_cases hs : c = '\u017f'
  · subst hs
    rfl
  · rw [Function.comp, lowered, if_neg hs, hfixed _ h _ (List.mem_map_of_mem hc)]

/-- A marker is sensitive as a key exactly when it is one of those that keys are searched for. -/
theorem isSensitiveKey_iff_isKnown {k : String} (h : IsMarker k.toList) :
    isSensitiveKey k = true ↔ IsKnown k.toList := by
  refine ⟨fun hk => ?_, fun hk => hk.isSensitiveKey (List.infix_refl _)⟩
  obtain ⟨w, hw, hin⟩ := (isSensitiveKey_iff k).1 hk
  have hlower : Text.lowercaseAfter [] k.toList = k.toList.map lowered := by
    have happend := Text.lowercaseAfter_append (fun c hc => h.lowercaseChar hc) [] []
    rw [List.append_nil, Text.lowercaseAfter, List.append_nil] at happend
    exact happend
  rw [hlower] at hin
  -- up to the third form of a letter, the only key word in a marker is the marker
  have hword : ∀ w ∈ keyMarkers, w.toList.map fold = w.toList ∧ '\u017f' ∉ w.toList := by decide
  have honly : ∀ m ∈ markers, ∀ w ∈ keyMarkers, w.toList <:+: m → w.toList = m ∧ m ∈ sharedMarkers := by
    decide +kernel
  have hfold := hin.map fold
  rw [h.map_fold_lowered, (hword w hw).1] at hfold
  obtain ⟨heq, hshared⟩ := honly _ h w hw hfold
  have hsame : w.toList = k.toList.map lowered := by
    refine hin.eq_of_length ?_
    rw [heq, List.length_map, List.length_map]
  refine ⟨hshared, fun hs => (hword w hw).2 ?_⟩
  rw [hsame]
  exact List.mem_map_of_mem hs

end

/-! ## Texts that stay as they are -/

section
variable {a cs k u v x y : List Char} {c : Char} {m n : Nat}

/-- A text without a marker and a separator is kept. -/
theorem maskFrom_of_not_announces (h : ∀ rest, rest <:+ cs → ¬ Announces rest) : maskFrom 0 cs = cs := by
  induction cs with
  | nil => rfl
  | cons c cs ih =>
    have hnone : secret? (c :: cs) = none :=
      Option.eq_none_iff_forall_ne_some.2 fun _ hfound => h _ (List.suffix_refl _) (announces_of_secret? hfound)
    rw [maskFrom_cons_of_secret?_eq_none hnone, ih fun rest hrest => h rest (hrest.trans (List.suffix_cons c cs))]

theorem maskFrom_of_not_isSeparator (h : ∀ c ∈ cs, isSeparator c = false) : maskFrom 0 cs = cs := by
  refine maskFrom_of_not_announces ?_
  rintro _ hrest ⟨k, c, t, -, hc, rfl⟩
  rw [h c (hrest.subset (List.mem_append_right k List.mem_cons_self))] at hc
  cases hc

theorem maskFrom_of_no_marker (h : ∀ u, u <:+: cs → ¬ IsMarker u) : maskFrom 0 cs = cs := by
  refine maskFrom_of_not_announces ?_
  rintro _ hrest ⟨k, c, t, hk, -, rfl⟩
  exact h k ((List.prefix_append k _).isInfix.trans hrest.isInfix) hk

/-- Each step through a text that is kept shows what it reads. -/
theorem step_of_maskFrom_eq_self (hne : cs ≠ []) (h : maskFrom 0 cs = cs) : (step cs).1 = cs.take (step cs).2 ∧
    maskFrom 0 (cs.drop (step cs).2) = cs.drop (step cs).2 := by
  have hsplit : (step cs).1 ++ maskFrom 0 (cs.drop (step cs).2) = cs.take (step cs).2 ++ cs.drop (step cs).2 := by
    rw [← maskFrom_eq_step hne, h, List.take_append_drop]
  have hshown := length_step_le cs
  have hrest := length_maskFrom_le (cs.drop (step cs).2)
  have htake := List.length_take_of_le (step_bounds hne).2
  have htotal := congrArg List.length hsplit
  rw [List.length_append, List.length_append] at htotal
  exact List.append_inj hsplit (by omega)

/-- An assignment that is kept has a mask for its value. -/
theorem exists_mask_of_secret? (h : secret? cs = some (m, n)) (hkept : (step cs).1 = cs.take (step cs).2) :
    ∃ k, IsMarker k ∧ n = k.length + 4 ∧ cs = k ++ ('=' :: mask ++ cs.drop n) := by
  obtain ⟨k, t, hk, rfl, rfl, -⟩ := exists_isMarker_of_secret? h
  rw [step_of_secret? h, List.take_left] at hkept
  dsimp only at hkept
  refine ⟨k, hk, ?_, ?_⟩
  · rw [← List.length_take_of_le (secret?_bounds h).2, ← hkept, List.length_append]
    rfl
  · rw [← List.append_assoc, hkept, List.take_append_drop]

/-- A marker with a separator does not begin in a mask behind another marker. -/
theorem Announces.ne_mask (hy : Announces y) {w : List Char} (hw : w.length < 4) :
    '=' :: mask ++ x ≠ w ++ y := by
  intro heq
  obtain ⟨k, c, t, hk, -, rfl⟩ := hy
  obtain ⟨d, k, rfl⟩ := List.exists_cons_of_ne_nil hk.ne_nil
  rcases List.append_eq_append_iff.1 heq with ⟨b, rfl, -⟩ | ⟨b, hmask, hb⟩
  · rw [List.length_append] at hw
    exact Nat.not_lt.2 (Nat.le_add_right 4 b.length) hw
  · cases b with
    | nil =>
      rw [List.append_nil] at hmask
      rw [← hmask] at hw
      exact Nat.lt_irrefl 4 hw
    | cons b rest =>
      rw [List.cons_append, List.cons_append, List.cons.injEq] at hb
      obtain ⟨rfl, -⟩ := hb
      have hmem : d ∈ '=' :: mask := hmask ▸ List.mem_append_right w List.mem_cons_self
      have hother : ∀ m ∈ markers, ('=' :: mask).all (fun d => fold d ∉ m) = true := by decide
      simp only [List.all_eq_true, decide_eq_true_eq] at hother
      exact hk.not_mem (fun m hm => hother m hm d hmem) List.mem_cons_self

/-- A text is not kept if it ends with an assignment of anything but a mask, whatever the text before it. -/
theorem maskFrom_ne_self (hy : secret? y = some (m, y.length)) (hlast : ∀ c ∈ y.getLast?, c ≠ '*') (a : List Char) :
    maskFrom 0 (a ++ y) ≠ a ++ y := by
  have hann := announces_of_secret? hy
  have hyne : y ≠ [] := by
    rintro rfl
    cases hy
  -- on what stands before the assignment; each step through it ends there or goes on into the assignment
  induction hlength : a.length using Nat.strong_induction_on generalizing a with
  | _ l ih =>
    subst hlength
    intro hsame
    have hne : a ++ y ≠ [] := List.append_ne_nil_of_right_ne_nil a hyne
    obtain ⟨hshown, hrest⟩ := step_of_maskFrom_eq_self hne hsame
    have hpos := (step_bounds hne).1
    by_cases hle : (step (a ++ y)).2 ≤ a.length
    · -- the step ends in front of the assignment
      rw [List.drop_append_of_le_length hle] at hrest
      exact ih (a.drop (step (a ++ y)).2).length (by rw [List.length_drop]; omega) _ rfl hrest
    · cases hfound : secret? (a ++ y) with
      | none =>
        have ha : a = [] := by
          rw [step_of_secret?_eq_none hfound] at hle
          exact List.length_eq_zero_iff.1 (by omega)
        rw [ha, List.nil_append, hy] at hfound
        cases hfound
      | some found =>
        -- the step reads a mask, and the assignment begins in what it reads
        obtain ⟨m', n⟩ := found
        obtain ⟨k, hk, hn, hread⟩ := exists_mask_of_secret? hfound hshown
        rw [step_of_secret? hfound] at hle
        dsimp only at hle
        rcases List.append_eq_append_iff.1 hread with ⟨w, hkw, -⟩ | ⟨w, hkw, hw⟩
        · by_cases ha : a = []
          · subst ha
            rw [List.nil_append] at hfound hread
            rw [hy, Option.some.injEq, Prod.mk.injEq] at hfound
            rw [← hfound.2, List.drop_length, List.append_nil] at hread
            exact hlast '*' (by rw [hread, List.getLast?_append]; rfl) rfl
          · have hsep := hann.not_isSeparator_of_overlap ha hk ⟨w, hkw.symm⟩ hread.symm '=' rfl
            cases hsep
        · refine hann.ne_mask ?_ hw
          rw [hkw, List.length_append] at hle
          omega

/-! ## A name and a value -/

/-- A value of letters and digits that is long enough to be masked. -/
structure IsPlain (v : List Char) : Prop where
  three_le_length : 3 ≤ v.length
  isAlphanum : ∀ c ∈ v, c.isAlphanum = true

theorem plain_of_isAlphanum (hc : c.isAlphanum = true) :
    isSecretChar c = true ∧ isSeparator c = false ∧ c ≠ '*' := by
  have hz : 'z'.val.toNat = 122 := rfl
  have hZ : 'Z'.val.toNat = 90 := rfl
  have h9 : '9'.val.toNat = 57 := rfl
  have hascii : c.val.toNat < 128 := by
    unfold Char.isAlphanum Char.isAlpha Char.isUpper Char.isLower Char.isDigit at hc
    simp only [Bool.or_eq_true, Bool.and_eq_true, decide_eq_true_eq, ge_iff_le, UInt32.le_iff_toNat_le] at hc
    omega
  have hall : ∀ n < 128, (Char.ofNat n).isAlphanum = true → isSecretChar (Char.ofNat n) = true ∧
      isSeparator (Char.ofNat n) = false ∧ Char.ofNat n ≠ '*' := by decide
  have hchar := hall c.toNat hascii
  rw [Char.ofNat_toNat] at hchar
  exact hchar hc

theorem IsPlain.isSecret (hv : IsPlain v) : IsSecret v :=
  ⟨hv.three_le_length, fun c hc => (plain_of_isAlphanum (hv.isAlphanum c hc)).1⟩

theorem IsPlain.isSeparator (hv : IsPlain v) : ∀ c ∈ v, isSeparator c = false :=
  fun c hc => (plain_of_isAlphanum (hv.isAlphanum c hc)).2.1

theorem IsPlain.ne_nil (hv : IsPlain v) : v ≠ [] :=
  List.length_pos_iff.1 (Nat.lt_of_lt_of_le (Nat.succ_pos 2) hv.three_le_length)

theorem IsPlain.reach_eq (hv : IsPlain v) : reach v = v.length := by
  have hreach := reach_append (q := []) hv.isSecret.isSecretChar nofun
  rwa [List.append_nil] at hreach

/-- The assignment of a value to a name is one to every unfinished assignment at its end. -/
theorem Unfinished.maskFrom_ne (hx : Unfinished x) (hv : IsPlain v) (a : List Char) :
    maskFrom 0 (a ++ (x ++ v)) ≠ a ++ (x ++ v) := by
  obtain ⟨k, sep, w, hk, hsep, hw, rfl⟩ := hx
  have hrun : v.takeWhile isSecretChar = v := List.takeWhile_eq_self_iff.2 hv.isSecret.isSecretChar
  have hlong : quoteAt (w ++ v.takeWhile isSecretChar) + 3 ≤ (w ++ v.takeWhile isSecretChar).length := by
    rw [hrun, List.length_append]
    exact Nat.add_le_add (quoteAt_append_le w hv.isSecret.isSecretChar) hv.three_le_length
  have hother : ∃ c ∈ w ++ v.takeWhile isSecretChar, isSeparator c = false := by
    obtain ⟨c, hc⟩ := List.exists_mem_of_ne_nil v hv.ne_nil
    rw [hrun]
    exact ⟨c, List.mem_append_right w hc, hv.isSeparator c hc⟩
  have hsecret := secret?_of_value hk hsep hw hlong hother
  rw [hv.reach_eq, ← List.length_append] at hsecret
  refine maskFrom_ne_self hsecret (fun c hc => ?_) a
  rw [List.getLast?_append_of_ne_nil _ hv.ne_nil] at hc
  exact (plain_of_isAlphanum (hv.isAlphanum c (List.mem_of_mem_getLast? hc))).2.2

theorem Unfinished.append_separator (hx : Unfinished x) : Unfinished (x ++ ['=']) := by
  obtain ⟨k, sep, w, hk, hsep, hw, rfl⟩ := hx
  refine ⟨k, sep, w ++ ['='], hk, hsep, hw.append (List.forall_mem_singleton.2 rfl), ?_⟩
  simp only [List.append_assoc]

theorem IsMarker.unfinished (hk : IsMarker k) : Unfinished (k ++ ['=']) :=
  ⟨k, ['='], [], hk, ⟨List.cons_ne_nil _ _, List.forall_mem_singleton.2 rfl⟩, nofun, rfl⟩

theorem IsMarker.not_mem_separator (hk : IsMarker k) : '=' ∉ k :=
  hk.not_mem (by decide)

/-- What is read at the beginning of a name is the same with a value assigned to it. -/
theorem secret?_append_assigned (hx : ¬ Unfinished (k ++ ['='])) : secret? (k ++ '=' :: v) = secret? k := by
  by_cases hmarker : ∃ u, IsMarker u ∧ u <+: k ++ '=' :: v
  · obtain ⟨u, hu, t, heq⟩ := hmarker
    -- no marker goes on over the separator
    have hwithin : u <+: k := by
      rcases List.append_eq_append_iff.1 heq with ⟨b, rfl, -⟩ | ⟨b, rfl, hb⟩
      · exact List.prefix_append u b
      · cases b with
        | nil => exact ⟨[], by rw [List.append_nil, List.append_nil]⟩
        | cons c b =>
          cases hb
          exact (hu.not_mem_separator (List.mem_append_right k List.mem_cons_self)).elim
    obtain ⟨t, rfl⟩ := hwithin
    have ht : t ≠ [] := by
      rintro rfl
      rw [List.append_nil] at hx
      exact hx hu.unfinished
    rw [List.append_assoc, secret?_append_of_isMarker hu, secret?_append_of_isMarker hu,
      assignment?_append_of_ne_nil hu (fun h => hx h.append_separator) ht]
  · rw [secret?_eq_none fun u hu hle => hmarker ⟨u, hu, hle⟩,
      secret?_eq_none fun u hu hle => hmarker ⟨u, hu, hle.trans (List.prefix_append ..)⟩]

/-- Behind a name that no assignment at its end is unfinished with, a value is shown. -/
theorem maskFrom_append_assigned (hv : IsPlain v) (hk : ∀ x, x <:+ k ++ ['='] → ¬ Unfinished x) :
    maskFrom 0 (k ++ '=' :: v) = maskFrom 0 k ++ '=' :: v := by
  induction hlength : k.length using Nat.strong_induction_on generalizing k with
  | _ n ih =>
    subst hlength
    by_cases hne : k = []
    · subst hne
      have hnone : secret? ('=' :: v) = none := secret?_eq_none fun u hu hle => by
        obtain ⟨c, u, rfl⟩ := List.exists_cons_of_ne_nil hu.ne_nil
        obtain ⟨rfl, -⟩ := List.cons_prefix_cons.1 hle
        exact hu.not_mem_separator List.mem_cons_self
      rw [List.nil_append, maskFrom_cons_of_secret?_eq_none hnone, maskFrom_of_not_isSeparator hv.isSeparator]
      rfl
    · obtain ⟨hpos, hle⟩ := step_bounds hne
      have hsecret := secret?_append_assigned (v := v) (hk _ (List.suffix_refl _))
      -- what a step leaves of the name ends as the name does
      have hrest : ∀ x, x <:+ k.drop (step k).2 ++ ['='] → ¬ Unfinished x := fun x hx =>
        hk x (hx.trans ⟨k.take (step k).2, by rw [← List.append_assoc, List.take_append_drop]⟩)
      rw [maskFrom_eq_step (List.append_ne_nil_of_left_ne_nil hne _), step_append_of_secret?_eq hne hsecret,
        List.drop_append_of_le_length hle, ih _ (by rw [List.length_drop]; omega) hrest rfl, ← List.append_assoc,
        ← maskFrom_eq_step hne]

/-- A marker in front of something else in a name with a separator stands in the name. -/
theorem infix_of_infix_append {t : List Char} (h : u ++ t <:+: k ++ ['=']) (ht : t ≠ []) : u <:+: k := by
  obtain ⟨a, b, heq⟩ := h
  refine ⟨a, (t ++ b).dropLast, ?_⟩
  have hlast := congrArg List.dropLast heq
  have hne : t ++ b ≠ [] := List.append_ne_nil_of_left_ne_nil ht b
  rw [List.append_assoc, List.append_assoc, ← List.append_assoc, List.dropLast_append_of_ne_nil hne,
    List.dropLast_concat] at hlast
  exact hlast

end

section
variable {k v : String}

theorem toList_assigned (k v : String) : (k ++ "=" ++ v).toList = k.toList ++ '=' :: v.toList := by
  rw [String.toList_append, String.toList_append, List.append_assoc]
  rfl

theorem redactText_eq_self_iff (s : String) : redactText s = s ↔ maskFrom 0 s.toList = s.toList := by
  rw [redactText, ← String.toList_inj, String.toList_ofList]

/-- A text with a name and a value changes if the name does by itself or an assignment is unfinished behind it. -/
theorem redactText_assigned_ne_iff (hv : IsPlain v.toList) : redactText (k ++ "=" ++ v) ≠ k ++ "=" ++ v ↔
    redactText k ≠ k ∨ ∃ x, x <:+ k.toList ++ ['='] ∧ Unfinished x := by
  rw [Ne, Ne, redactText_eq_self_iff, redactText_eq_self_iff, toList_assigned]
  by_cases hopen : ∃ x, x <:+ k.toList ++ ['='] ∧ Unfinished x
  · refine iff_of_true ?_ (Or.inr hopen)
    obtain ⟨x, ⟨a, ha⟩, hx⟩ := hopen
    have hne := hx.maskFrom_ne hv a
    rw [← List.append_assoc, ha, List.append_assoc, List.singleton_append] at hne
    exact hne
  · have hnone : ∀ x, x <:+ k.toList ++ ['='] → ¬ Unfinished x := fun x hx hopen' => hopen ⟨x, hx, hopen'⟩
    rw [maskFrom_append_assigned hv hnone, List.append_cancel_right_eq, or_iff_left hopen]

/-- A text with a name and a value changes only when there is a marker in the name. -/
theorem exists_isMarker_of_redactText_ne (hv : IsPlain v.toList)
    (hchanged : redactText (k ++ "=" ++ v) ≠ k ++ "=" ++ v) : ∃ u, u <:+: k.toList ∧ IsMarker u := by
  rcases (redactText_assigned_ne_iff hv).1 hchanged with hchanged | ⟨x, hsuffix, u, sep, w, hu, hsep, -, rfl⟩
  · by_contra hnone
    rw [Ne, redactText_eq_self_iff] at hchanged
    exact hchanged (maskFrom_of_no_marker fun u hinfix hu => hnone ⟨u, hinfix, hu⟩)
  · exact ⟨u, infix_of_infix_append hsuffix.isInfix (List.append_ne_nil_of_left_ne_nil hsep.ne_nil w), hu⟩

theorem redactText_assigned_of_isMarker (hv : IsPlain v.toList) (hk : IsMarker k.toList) :
    redactText (k ++ "=" ++ v) = k ++ "=***" := by
  have hgap : IsGap ['='] := ⟨List.cons_ne_nil _ _, List.forall_mem_singleton.2 rfl⟩
  have hmasked := maskFrom_append_of_isSecret (q := []) hk hgap hv.isSecret nofun
  rw [List.append_nil, List.drop_nil, maskFrom, List.append_nil, List.singleton_append] at hmasked
  rw [redactText, toList_assigned, hmasked, ← String.toList_inj, String.toList_ofList, String.toList_append]
  rfl

theorem redact_record (hv : IsPlain v.toList) (k : String) : redact (.object [(k, .text v)]) =
    .object [(k, .text (if isSensitiveKey k then "***" else v))] := by
  have hself : redactText v = v := (redactText_eq_self_iff v).2 (maskFrom_of_not_isSeparator hv.isSeparator)
  rw [redact_object, List.map_singleton, redactMember, redact, hself]
  split <;> rfl

end

/-- How a name with a value is judged as a part of a text and as a member of a record. -/
structure NameJudged (k v : String) : Prop where
  changed_iff : redactText (k ++ "=" ++ v) ≠ k ++ "=" ++ v ↔
    redactText k ≠ k ∨ ∃ x, x <:+ k.toList ++ ['='] ∧ Unfinished x
  record : redact (.object [(k, .text v)]) = .object [(k, .text (if isSensitiveKey k then "***" else v))]
  /-- The two agree on names with a marker that keys are searched for. -/
  sensitive : redactText (k ++ "=" ++ v) ≠ k ++ "=" ++ v → isSensitiveKey k = true ∨
    (∃ u, u <:+: k.toList ∧ IsMarker u) ∧ ∀ u, u <:+: k.toList → IsMarker u → ¬ IsKnown u
  /-- They agree on a marker by itself just when it is one of those. -/
  marker : IsMarker k.toList → redactText (k ++ "=" ++ v) = k ++ "=***" ∧
    (isSensitiveKey k = true ↔ IsKnown k.toList)

/-- A name that announces a secret in a text is sensitive as a key if one of its markers is known as a key word. -/
theorem nameJudged (k : String) {v : String} (hv : IsPlain v.toList) : NameJudged k v where
  changed_iff := redactText_assigned_ne_iff hv
  record := redact_record hv k
  sensitive := by
    intro hchanged
    by_cases hknown : ∃ u, u <:+: k.toList ∧ IsKnown u
    · obtain ⟨u, hu, hknown⟩ := hknown
      exact Or.inl (hknown.isSensitiveKey hu)
    · exact Or.inr ⟨exists_isMarker_of_redactText_ne hv hchanged, fun u hu _ hknown' => hknown ⟨u, hu, hknown'⟩⟩
  marker := fun hk => ⟨redactText_assigned_of_isMarker hv hk, isSensitiveKey_iff_isKnown hk⟩

theorem nameJudged_accessToken : IsPlain "abc123".toList ∧ NameJudged "access_token" "abc123" := by
  have hv : IsPlain "abc123".toList := ⟨by decide, List.all_eq_true.1 rfl⟩
  exact ⟨hv, nameJudged "access_token" hv⟩

/-- Keys are not searched for a key with a hyphen. -/
theorem redactText_apiKey_notSensitive : IsPlain "sk12345".toList ∧
    redactText ("api-key" ++ "=" ++ "sk12345") = "api-key=***" ∧
      redactText ("api-key" ++ "=" ++ "sk12345") ≠ "api-key" ++ "=" ++ "sk12345" ∧
      isSensitiveKey "api-key" = false ∧
      redact (.object [("api-key", .text "sk12345")]) = .object [("api-key", .text "sk12345")] := by
  have hmasked : redactText ("api-key" ++ "=" ++ "sk12345") = "api-key=***" := rfl
  refine ⟨⟨by decide, List.all_eq_true.1 rfl⟩, hmasked, ?_, by decide, rfl⟩
  rw [hmasked]
  decide

end FieldRules.Redaction
