/-
Masking what is masked already. A mask is read as a secret of its own, so a second pass changes nothing just when
nothing is left attached to a mask: when behind each secret that is masked comes a blank or the end. Only a secret
that ends with a quote may be followed by something else (`maskFrom_maskFrom_iff`, `redact_redact_iff`).
-/
import FieldRules.Proofs.Redaction.Masking
import FieldRules.Proofs.Redaction.Value

namespace FieldRules.Redaction

open Json

/-! ## The end of a secret -/

section
variable {cs k t x rest : List Char} {c : Char} {m n size : Nat}

theorem isBlank_of_isSecretChar_eq_false (hc : isSecretChar c = false) (hquote : isQuote c = false) :
    Text.isBlank c = true := by
  rw [isSecretChar, hquote, Bool.not_false, Bool.and_true, Bool.not_eq_false'] at hc
  exact hc

theorem three_le_of_bodySize? (h : bodySize? cs = some n) : 3 ≤ n := by
  rw [bodySize?] at h
  split at h
  · cases h
  · cases h
    omega

theorem three_le_of_valueSize? (h : valueSize? cs = some n) : 3 ≤ n := by
  rw [valueSize?_eq, Option.map_eq_some_iff] at h
  obtain ⟨size, hsize, rfl⟩ := h
  exact Nat.le_add_left_of_le (three_le_of_bodySize? hsize)

theorem four_le_of_assignmentSize? {count : Nat} (h : assignmentSize? cs count = some n) : 4 ≤ n := by
  induction count with
  | zero => cases h
  | succ count ih =>
    rw [assignmentSize?] at h
    split at h
    · next size hsize =>
      cases h
      have := three_le_of_valueSize? hsize
      omega
    · exact ih h

/-- What is behind the first `n` characters begins with a blank, or those end with a quote. -/
def EndsAt (cs : List Char) (n : Nat) : Prop :=
  (∀ c ∈ (cs.drop n).head?, Text.isBlank c = true) ∨ ∃ x q, cs.take n = x ++ [q] ∧ isQuote q = true

theorem EndsAt.of_drop {j : Nat} (h : EndsAt (cs.drop j) n) : EndsAt cs (j + n) := by
  rw [EndsAt, List.drop_drop] at h
  refine h.imp_right ?_
  rintro ⟨x, q, hx, hq⟩
  exact ⟨cs.take j ++ x, q, by rw [List.take_add, hx, List.append_assoc], hq⟩

/-- A secret goes on up to a blank or a quote, and a quote is taken. -/
theorem endsAt_of_bodySize? (h : bodySize? cs = some n) : EndsAt cs n := by
  rw [bodySize?] at h
  split at h
  · cases h
  · cases h
    have hrest : cs.drop (cs.takeWhile isSecretChar).length = cs.dropWhile isSecretChar := by
      conv => lhs; arg 2; rw [← List.takeWhile_append_dropWhile (p := isSecretChar) (l := cs)]
      exact List.drop_left
    have hstop := List.head?_dropWhile_not isSecretChar cs
    refine EndsAt.of_drop ?_
    rw [hrest]
    cases hbehind : cs.dropWhile isSecretChar with
    | nil =>
      refine Or.inl ?_
      rintro _ ⟨⟩
    | cons c rest =>
      rw [hbehind] at hstop
      by_cases hquote : isQuote c = true
      · rw [quoteAt_cons, if_pos hquote]
        exact Or.inr ⟨[], c, rfl, hquote⟩
      · rw [Bool.not_eq_true] at hquote
        rw [quoteAt_cons, hquote]
        refine Or.inl ?_
        rintro _ ⟨⟩
        exact isBlank_of_isSecretChar_eq_false hstop hquote

theorem endsAt_of_valueSize? (h : valueSize? cs = some n) : EndsAt cs n := by
  rw [valueSize?_eq, Option.map_eq_some_iff] at h
  obtain ⟨size, hsize, rfl⟩ := h
  exact (endsAt_of_bodySize? hsize).of_drop

theorem endsAt_of_assignmentSize? {count : Nat} (h : assignmentSize? cs count = some n) : EndsAt cs n := by
  induction count with
  | zero => cases h
  | succ count ih =>
    rw [assignmentSize?] at h
    split at h
    · next size hsize =>
      cases h
      exact (endsAt_of_valueSize? hsize).of_drop
    · exact ih h

/-! ## Assignments that are found -/

theorem announces_of_secret? (h : secret? cs = some (m, n)) : Announces cs := by
  obtain ⟨k, t, hk, rfl, -, size, hsize, -⟩ := exists_isMarker_of_secret? h
  cases t with
  | nil => cases hsize
  | cons c t =>
    refine ⟨k, c, t, hk, ?_, rfl⟩
    by_contra hc
    rw [Bool.not_eq_true] at hc
    rw [assignment?_of_head?_not_isSeparator (by rintro _ ⟨⟩; exact hc)] at hsize
    cases hsize

theorem endsAt_of_secret? (h : secret? cs = some (m, n)) : EndsAt cs n := by
  obtain ⟨k, t, hk, rfl, rfl, size, hsize, rfl⟩ := exists_isMarker_of_secret? h
  refine EndsAt.of_drop ?_
  rw [List.drop_left]
  exact endsAt_of_assignmentSize? hsize

/-- A mask is not longer than what it stands for. -/
theorem four_le_of_secret? (h : secret? cs = some (m, n)) : m + 4 ≤ n := by
  obtain ⟨k, t, hk, rfl, rfl, size, hsize, rfl⟩ := exists_isMarker_of_secret? h
  exact Nat.add_le_add_left (four_le_of_assignmentSize? hsize) _

/-! ## Masks -/

theorem length_step_le (cs : List Char) : (step cs).1.length ≤ (step cs).2 := by
  cases h : secret? cs with
  | none =>
    rw [step_of_secret?_eq_none h]
    exact List.length_take_le ..
  | some found =>
    rw [step_of_secret? h, List.length_append]
    have := four_le_of_secret? h
    have := List.length_take_le found.1 cs
    show _ + 4 ≤ found.2
    omega

theorem length_maskFrom_le (cs : List Char) : (maskFrom 0 cs).length ≤ cs.length := by
  induction hlength : cs.length using Nat.strong_induction_on generalizing cs with
  | _ n ih =>
    subst hlength
    by_cases hne : cs = []
    · subst hne
      exact Nat.le_refl 0
    · obtain ⟨hpos, hle⟩ := step_bounds hne
      have hstep := length_step_le cs
      have hrest := ih (cs.drop (step cs).2).length (by rw [List.length_drop]; omega) _ rfl
      rw [List.length_drop] at hrest
      rw [maskFrom_eq_step hne, List.length_append]
      omega

theorem announces_maskFrom (h : secret? cs = some (m, n)) : Announces (maskFrom 0 cs) := by
  obtain ⟨k, t, hk, rfl, rfl, -⟩ := exists_isMarker_of_secret? h
  rw [maskFrom_of_secret? h, List.take_left, List.append_assoc]
  exact ⟨k, '=', mask ++ maskFrom 0 _, hk, rfl, rfl⟩

/-- Where nothing is masked, nothing is masked with masks in the place of secrets further on. -/
theorem secret?_append_maskFrom (hne : x ≠ []) (h : secret? (x ++ cs) = none) :
    secret? (x ++ maskFrom 0 cs) = none := by
  induction cs generalizing x with
  | nil => exact h
  | cons c cs ih =>
    cases hfound : secret? (c :: cs) with
    | none =>
      have hx : x ++ [c] ≠ [] := List.append_ne_nil_of_left_ne_nil hne _
      rw [← List.singleton_append, ← List.append_assoc] at h
      rw [maskFrom_cons_of_secret?_eq_none hfound, ← List.singleton_append, ← List.append_assoc]
      exact ih hx h
    | some found =>
      have hrest := announces_of_secret? hfound
      have hx : ¬ Unfinished x := by
        intro hx
        obtain ⟨m, -, hsecret⟩ := hx.secret?_append
        rw [hsecret _ hrest] at h
        cases h
      rw [secret?_append hne hx hrest] at h
      rw [secret?_append hne hx (announces_maskFrom hfound), h]

/-- A mask is read as a secret that goes on through what is attached to it. -/
theorem secret?_mask (hk : IsMarker k) (rest : List Char) :
    secret? (k ++ '=' :: mask ++ rest) = some (k.length, k.length + 4 + reach rest) := by
  have hmask : ∀ c ∈ mask, isSecretChar c = true := List.all_eq_true.1 rfl
  have hgap : IsGap ['='] := ⟨List.cons_ne_nil _ _, List.all_eq_true.1 rfl⟩
  have hall : ∀ c ∈ mask ++ rest.takeWhile isSecretChar, isSecretChar c = true :=
    List.forall_mem_append.2 ⟨hmask, List.all_eq_true.1 List.all_takeWhile⟩
  have hlong : quoteAt (mask ++ rest.takeWhile isSecretChar) + 3 ≤
      (mask ++ rest.takeWhile isSecretChar).length := by
    rw [quoteAt_of_forall hall, List.length_append, Nat.zero_add]
    exact Nat.le_add_right 3 _
  have hother : ∃ c ∈ mask ++ rest.takeWhile isSecretChar, isSeparator c = false :=
    ⟨'*', List.mem_append_left _ (by decide), rfl⟩
  have hsecret := secret?_of_value hk hgap (.of_forall hmask) hlong hother
  rw [List.length_append] at hsecret
  exact hsecret

theorem reach_eq_zero_iff : reach rest = 0 ↔ ∀ c ∈ rest.head?, Text.isBlank c = true := by
  refine ⟨fun h c hc => ?_, fun h => reach_append (List.forall_mem_nil _) h⟩
  obtain ⟨rest, rfl⟩ := List.head?_eq_some_iff.1 hc
  by_contra hblank
  rw [Bool.not_eq_true] at hblank
  by_cases hsecret : isSecretChar c = true
  · rw [reach, List.takeWhile_cons_of_pos hsecret, List.length_cons] at h
    omega
  · have hquote : isQuote c = true := by
      by_contra hquote
      rw [Bool.not_eq_true] at hquote hsecret
      rw [isBlank_of_isSecretChar_eq_false hsecret hquote] at hblank
      cases hblank
    rw [reach, List.takeWhile_cons_of_neg hsecret, List.dropWhile_cons_of_neg hsecret, quoteAt_cons,
      if_pos hquote] at h
    cases h

/-! ## A second pass -/

/-- A second pass keeps a mask just when nothing is attached to it and the rest is kept. -/
theorem maskFrom_maskFrom_of_secret? (h : secret? cs = some (m, n)) :
    maskFrom 0 (maskFrom 0 cs) = maskFrom 0 cs ↔ (∀ c ∈ (cs.drop n).head?, Text.isBlank c = true) ∧
      maskFrom 0 (maskFrom 0 (cs.drop n)) = maskFrom 0 (cs.drop n) := by
  obtain ⟨k, t, hk, rfl, rfl, -⟩ := exists_isMarker_of_secret? h
  rw [maskFrom_of_secret? h, List.take_left, ← head?_maskFrom ((k ++ t).drop n), ← reach_eq_zero_iff]
  generalize maskFrom 0 ((k ++ t).drop n) = shown
  have hdrop : (k ++ '=' :: mask ++ shown).drop (k.length + 4 + reach shown) = shown.drop (reach shown) := by
    have hlength : (k ++ '=' :: mask).length = k.length + 4 := List.length_append
    rw [← hlength, ← List.drop_drop, List.drop_left]
  rw [maskFrom_of_secret? (secret?_mask hk shown), List.append_assoc k, List.take_left, ← List.append_assoc,
    hdrop, List.append_cancel_left_eq]
  constructor
  · intro hsame
    -- what is attached would be lost, and masks make up for nothing
    have hnone : reach shown = 0 := by
      have hshort := length_maskFrom_le (shown.drop (reach shown))
      rw [hsame, List.length_drop] at hshort
      by_contra hreach
      have hnil : shown = [] := List.length_eq_zero_iff.1 (by omega)
      subst hnil
      exact hreach rfl
    rw [hnone, List.drop_zero] at hsame
    exact ⟨hnone, hsame⟩
  · rintro ⟨hnone, hsame⟩
    rwa [hnone, List.drop_zero]

end

/-- The texts that masking comes to, each behind what is read in front of it. -/
inductive ComesTo : List Char → List Char → Prop where
  | here (cs : List Char) : ComesTo cs cs
  | behind {cs rest : List Char} (hne : cs ≠ []) (h : ComesTo (cs.drop (step cs).2) rest) : ComesTo cs rest

/-- At the beginning a secret is masked that ends with a quote, and something other than a blank is attached to
that. -/
def LeavesTail (cs : List Char) : Prop :=
  ∃ m x q c tail, cs = x ++ q :: c :: tail ∧ secret? cs = some (m, x.length + 1) ∧ isQuote q = true ∧
    Text.isBlank c = false

section
variable {cs rest : List Char} {c : Char} {m n : Nat}

theorem comesTo_iff (hne : cs ≠ []) : ComesTo cs rest ↔ rest = cs ∨ ComesTo (cs.drop (step cs).2) rest := by
  constructor
  · rintro (_ | ⟨-, h⟩)
    · exact Or.inl rfl
    · exact Or.inr h
  · rintro (rfl | h)
    · exact .here _
    · exact .behind hne h

theorem not_leavesTail_of_secret?_eq_none (h : secret? cs = none) : ¬ LeavesTail cs := by
  rintro ⟨m, x, q, c, tail, -, hsecret, -⟩
  rw [h] at hsecret
  cases hsecret

theorem not_leavesTail_iff (h : secret? cs = some (m, n)) :
    ¬ LeavesTail cs ↔ ∀ c ∈ (cs.drop n).head?, Text.isBlank c = true := by
  constructor
  · intro hnone c hc
    rcases endsAt_of_secret? h with hblank | ⟨x, q, hx, hq⟩
    · exact hblank c hc
    · obtain ⟨tail, htail⟩ := List.head?_eq_some_iff.1 hc
      have hsplit : cs = x ++ q :: c :: tail := by
        rw [← List.take_append_drop n cs, hx, htail, List.append_assoc, List.singleton_append]
      have hn : x.length + 1 = n := by
        rw [← List.length_take_of_le (secret?_bounds h).2, hx, List.length_append, List.length_singleton]
      by_contra hblank
      exact hnone ⟨m, x, q, c, tail, hsplit, by rw [h, hn], hq, Bool.eq_false_iff.2 hblank⟩
  · rintro hblank ⟨m', x, q, c, tail, rfl, hsecret, -, hc⟩
    rw [h] at hsecret
    cases hsecret
    rw [← List.drop_drop, List.drop_left] at hblank
    rw [hblank c rfl] at hc
    cases hc

/-- A second pass over a text keeps it just when the first one leaves nothing attached to a mask. -/
theorem maskFrom_maskFrom_iff (cs : List Char) :
    maskFrom 0 (maskFrom 0 cs) = maskFrom 0 cs ↔ ∀ rest, ComesTo cs rest → ¬ LeavesTail rest := by
  induction hlength : cs.length using Nat.strong_induction_on generalizing cs with
  | _ n ih =>
    subst hlength
    by_cases hne : cs = []
    · subst hne
      refine iff_of_true rfl ?_
      rintro rest (_ | ⟨hne, -⟩)
      · exact not_leavesTail_of_secret?_eq_none rfl
      · exact (hne rfl).elim
    · obtain ⟨hpos, hle⟩ := step_bounds hne
      have hrest := ih (cs.drop (step cs).2).length (by rw [List.length_drop]; omega) _ rfl
      simp only [comesTo_iff hne, forall_eq_or_imp]
      rw [← hrest]
      cases h : secret? cs with
      | none =>
        obtain ⟨c, cs, rfl⟩ := List.exists_cons_of_ne_nil hne
        have hagain : secret? (c :: maskFrom 0 cs) = none := secret?_append_maskFrom (List.cons_ne_nil c []) h
        rw [maskFrom_cons_of_secret?_eq_none h, maskFrom_cons_of_secret?_eq_none hagain,
          step_of_secret?_eq_none h, List.cons_inj_right]
        exact (and_iff_right (not_leavesTail_of_secret?_eq_none h)).symm
      | some found =>
        rw [maskFrom_maskFrom_of_secret? h, not_leavesTail_iff h, step_of_secret? h]

theorem redactText_redactText_iff (s : String) : redactText (redactText s) = redactText s ↔
    ∀ rest, ComesTo s.toList rest → ¬ LeavesTail rest := by
  rw [← maskFrom_maskFrom_iff]
  unfold redactText
  rw [String.toList_ofList, String.ofList_inj]

end

/-! ## Values -/

/-- A text stands in a value, outside of what sensitive keys hold. -/
def HasText (v : Json) (s : String) : Prop :=
  ∃ path, Visible path ∧ v.at? path = some (.text s)

section
variable {v : Json} {s t : String} {items : List Json} {members : List (String × Json)}

theorem hasText_iff : HasText v s ↔ v = .text s ∨
    ∃ step part, ¬ Hidden step ∧ v.step? step = some part ∧ HasText part s := by
  constructor
  · rintro ⟨_ | ⟨step, path⟩, hpath, hat⟩
    · exact Or.inl (Option.some.inj hat)
    · obtain ⟨part, hpart, hrest⟩ := Option.bind_eq_some_iff.1 hat
      exact Or.inr ⟨step, part, (visible_cons.1 hpath).1, hpart, path, (visible_cons.1 hpath).2, hrest⟩
  · rintro (rfl | ⟨step, part, hstep, hpart, path, hpath, hrest⟩)
    · exact ⟨[], visible_nil, rfl⟩
    · exact ⟨step :: path, visible_cons.2 ⟨hstep, hpath⟩, Option.bind_eq_some_iff.2 ⟨part, hpart, hrest⟩⟩

theorem hasText_list : HasText (.list items) s ↔ ∃ v ∈ items, HasText v s := by
  rw [hasText_iff, or_iff_right nofun]
  constructor
  · rintro ⟨step, part, -, hpart, htext⟩
    cases step with
    | item i => exact ⟨part, List.mem_of_getElem? hpart, htext⟩
    | member i key => cases hpart
  · rintro ⟨v, hv, htext⟩
    obtain ⟨i, hi⟩ := List.mem_iff_getElem?.1 hv
    exact ⟨.item i, v, id, hi, htext⟩

theorem hasText_object : HasText (.object members) s ↔
    ∃ e ∈ members, ¬ isSensitiveKey e.1 = true ∧ HasText e.2 s := by
  rw [hasText_iff, or_iff_right nofun]
  constructor
  · rintro ⟨step, part, hstep, hpart, htext⟩
    cases step with
    | item i => cases hpart
    | member i key =>
      obtain ⟨e, he, hkey⟩ := Option.bind_eq_some_iff.1 hpart
      rw [Option.ite_none_right_eq_some] at hkey
      obtain ⟨rfl, heq⟩ := hkey
      cases heq
      exact ⟨e, List.mem_of_getElem? he, hstep, htext⟩
  · rintro ⟨e, he, hkey, htext⟩
    obtain ⟨i, hi, rfl⟩ := List.mem_iff_getElem.1 he
    exact ⟨.member i members[i].1, _, hkey, step?_member hi, htext⟩

theorem redactMember_redactMember_iff (e : String × Json) : redactMember (redactMember e) = redactMember e ↔
    ¬ isSensitiveKey e.1 = true → redact (redact e.2) = redact e.2 := by
  unfold redactMember
  by_cases hkey : isSensitiveKey e.1 = true
  · simp [hkey]
  · simp [hkey]

/-- A second pass over a value keeps it just when the first one leaves nothing attached to a mask in any of the
texts outside of what sensitive keys hold. -/
theorem redact_redact_iff (v : Json) : redact (redact v) = redact v ↔
    ∀ s, HasText v s → ∀ rest, ComesTo s.toList rest → ¬ LeavesTail rest := by
  simp only [← redactText_redactText_iff]
  induction v using parts_induction with
  | null | bool | number =>
    refine iff_of_true (by simp only [redact]) fun s hs => ?_
    rcases hasText_iff.1 hs with heq | ⟨_ | _, _, _, hpart, _⟩
    · cases heq
    · cases hpart
    · cases hpart
  | text t =>
    have htext : ∀ s, HasText (.text t) s ↔ s = t := by
      intro s
      rw [hasText_iff, or_iff_left, Json.text.injEq, eq_comm]
      rintro ⟨_ | _, _, _, hpart, _⟩ <;> cases hpart
    simp only [htext, forall_eq, redact, Json.text.injEq]
  | list items ih =>
    simp only [redact_list, hasText_list, Json.list.injEq, List.map_map, List.map_inj_left, Function.comp]
    constructor
    · rintro hsame s ⟨v, hv, htext⟩
      exact (ih v hv).1 (hsame v hv) s htext
    · intro htexts v hv
      exact (ih v hv).2 fun s htext => htexts s ⟨v, hv, htext⟩
  | object members ih =>
    simp only [redact_object, hasText_object, Json.object.injEq, List.map_map, List.map_inj_left, Function.comp,
      redactMember_redactMember_iff]
    constructor
    · rintro hsame s ⟨e, he, hkey, htext⟩
      exact (ih e he).1 (hsame e he hkey) s htext
    · intro htexts e he hkey
      exact (ih e he).2 fun s htext => htexts s ⟨e, he, hkey, htext⟩

end

/-- The closing quote of a secret is masked with it, so what comes behind the quote is attached to the mask. -/
theorem redact_redact_quotedToken : redact (.text "token='abc'def") = .text "token=***def" ∧
    redact (redact (.text "token='abc'def")) = .text "token=***" ∧
      redact (redact (.text "token='abc'def")) ≠ redact (.text "token='abc'def") := by
  have honce : redact (.text "token='abc'def") = .text "token=***def" := rfl
  have htwice : redact (.text "token=***def") = .text "token=***" := rfl
  refine ⟨honce, by rw [honce, htwice], ?_⟩
  rw [honce, htwice, Ne, Json.text.injEq]
  decide

end FieldRules.Redaction
