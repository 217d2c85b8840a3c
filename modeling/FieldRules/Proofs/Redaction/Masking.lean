/-
What a masked text says of a secret in it. Where the marker of the secret is read as a marker the text says nothing
of it, and where it is taken as the value of an assignment before it a blank in the gap leaves the secret to be
shown. A secret of separators is a part of the gap if what follows can be the value, and the two are masked as one
(`maskFrom_eq_iff_of_separators`). When two secrets are hidden alike, of one kind or not, is `redactText_eq_iff`.
-/
import FieldRules.Proofs.Redaction.Assignment

namespace FieldRules.Redaction

/-! ## One step -/

/-- What is shown of the beginning of a list and how many characters are read for it. -/
def step (cs : List Char) : List Char × Nat :=
  match secret? cs with
  | some (m, n) => (cs.take m ++ '=' :: mask, n)
  | none => (cs.take 1, 1)

section
variable {cs k u x rest : List Char} {c : Char} {m n : Nat}

theorem maskFrom_eq_drop (n : Nat) (cs : List Char) : maskFrom n cs = maskFrom 0 (cs.drop n) := by
  induction n generalizing cs with
  | zero => rfl
  | succ n ih =>
    cases cs with
    | nil => rfl
    | cons c cs => exact ih cs

theorem step_of_secret? (h : secret? cs = some (m, n)) : step cs = (cs.take m ++ '=' :: mask, n) := by
  rw [step, h]

theorem step_of_secret?_eq_none (h : secret? cs = none) : step cs = (cs.take 1, 1) := by
  rw [step, h]

theorem step_bounds (hne : cs ≠ []) : 0 < (step cs).2 ∧ (step cs).2 ≤ cs.length := by
  cases h : secret? cs with
  | none =>
    rw [step_of_secret?_eq_none h]
    exact ⟨Nat.one_pos, List.length_pos_iff.2 hne⟩
  | some found =>
    rw [step_of_secret? h]
    have := secret?_bounds h
    exact ⟨by omega, this.2⟩

theorem maskFrom_eq_step (hne : cs ≠ []) : maskFrom 0 cs = (step cs).1 ++ maskFrom 0 (cs.drop (step cs).2) := by
  obtain ⟨c, cs, rfl⟩ := List.exists_cons_of_ne_nil hne
  rw [maskFrom]
  cases h : secret? (c :: cs) with
  | none => rw [step_of_secret?_eq_none h]; rfl
  | some found =>
    obtain ⟨m, n⟩ := found
    have hpos : n ≠ 0 := Nat.ne_zero_of_lt (secret?_bounds h).1
    obtain ⟨n, rfl⟩ := Nat.exists_eq_add_one_of_ne_zero hpos
    rw [step_of_secret? h, List.drop_succ_cons, ← maskFrom_eq_drop]
    rfl

theorem maskFrom_of_secret? (h : secret? cs = some (m, n)) :
    maskFrom 0 cs = cs.take m ++ '=' :: mask ++ maskFrom 0 (cs.drop n) := by
  have hne : cs ≠ [] := by
    rintro rfl
    cases h
  rw [maskFrom_eq_step hne, step_of_secret? h]

theorem maskFrom_cons_of_secret?_eq_none (h : secret? (c :: cs) = none) :
    maskFrom 0 (c :: cs) = c :: maskFrom 0 cs := by
  rw [maskFrom_eq_step (List.cons_ne_nil c cs), step_of_secret?_eq_none h]
  rfl

theorem head?_maskFrom (cs : List Char) : (maskFrom 0 cs).head? = cs.head? := by
  cases cs with
  | nil => rfl
  | cons c cs =>
    cases h : secret? (c :: cs) with
    | none =>
      rw [maskFrom_cons_of_secret?_eq_none h]
      rfl
    | some found =>
      obtain ⟨k, t, hk, heq, hm, -⟩ := exists_isMarker_of_secret? h
      obtain ⟨d, k, rfl⟩ := List.exists_cons_of_ne_nil hk.ne_nil
      rw [maskFrom_of_secret? h, hm, heq]
      simp

theorem step_append_of_secret?_eq (hne : x ≠ []) (hsecret : secret? (x ++ rest) = secret? x) :
    step (x ++ rest) = step x := by
  cases h : secret? x with
  | none =>
    rw [h] at hsecret
    rw [step_of_secret?_eq_none h, step_of_secret?_eq_none hsecret,
      List.take_append_of_le_length (List.length_pos_iff.2 hne)]
  | some found =>
    rw [h] at hsecret
    have := secret?_bounds h
    rw [step_of_secret? h, step_of_secret? hsecret, List.take_append_of_le_length (by omega)]

theorem step_append (hne : x ≠ []) (hx : ¬ Unfinished x) (hrest : Announces rest) : step (x ++ rest) = step x :=
  step_append_of_secret?_eq hne (secret?_append hne hx hrest)

/-- A step from an unfinished assignment goes on into a marker behind it. -/
theorem Announces.not_unfinished (hrest : Announces rest) (h : (step (x ++ rest)).2 ≤ x.length) :
    ¬ Unfinished x := by
  intro hx
  obtain ⟨m, -, hsecret⟩ := hx.secret?_append
  rw [step_of_secret? (hsecret rest hrest)] at h
  have := hrest.reach_pos
  omega

/-- A text of characters that are in no marker is shown as it is. -/
theorem maskFrom_append_of_not_mem (hu : ∀ c ∈ u, ∀ k, IsMarker k → c ∉ k) (cs : List Char) :
    maskFrom 0 (u ++ cs) = u ++ maskFrom 0 cs := by
  induction u with
  | nil => rfl
  | cons c u ih =>
    obtain ⟨hc, hu⟩ := List.forall_mem_cons.1 hu
    have hnone : secret? (c :: (u ++ cs)) = none := secret?_eq_none fun k hk hle => by
      obtain ⟨d, k, rfl⟩ := List.exists_cons_of_ne_nil hk.ne_nil
      exact hc _ hk ((List.cons_prefix_cons.1 hle).1 ▸ List.mem_cons_self)
    rw [List.cons_append, maskFrom_eq_step (List.cons_ne_nil c _), step_of_secret?_eq_none hnone, List.cons_append,
      ← ih hu]
    rfl

theorem maskFrom_append_of_isSeparator (hu : ∀ c ∈ u, isSeparator c = true) (cs : List Char) :
    maskFrom 0 (u ++ cs) = u ++ maskFrom 0 cs := by
  refine maskFrom_append_of_not_mem (fun c hc k hk hmem => ?_) cs
  have hother := (hk.isSecretChar hmem).2
  rw [hu c hc] at hother
  cases hother

end

/-! ## Open ends -/

/-- A list at whose end an assignment is unfinished, with a marker that no assignment before it takes: `bearer ` is
open, and `bearer token ` is not. -/
def IsOpen (p : List Char) : Prop :=
  ∃ n, ∃ _ : n < p.length, Unfinished (p.drop n) ∧ ¬ IsOpen (p.take n)
termination_by p.length
decreasing_by
  rw [List.length_take]
  omega

section
variable {p x y : List Char}

theorem isOpen_iff : IsOpen p ↔ ∃ a x, p = a ++ x ∧ Unfinished x ∧ ¬ IsOpen a := by
  rw [IsOpen]
  constructor
  · rintro ⟨n, -, hx, ha⟩
    exact ⟨p.take n, p.drop n, (List.take_append_drop n p).symm, hx, ha⟩
  · rintro ⟨a, x, rfl, hx, ha⟩
    have hpos : 0 < x.length := List.length_pos_iff.2 hx.ne_nil
    exact ⟨a.length, by rw [List.length_append]; omega, by rwa [List.drop_left], by rwa [List.take_left]⟩

theorem not_isOpen_nil : ¬ IsOpen [] := by
  rw [isOpen_iff]
  rintro ⟨a, x, heq, hx, -⟩
  exact hx.ne_nil (List.append_eq_nil_iff.1 heq.symm).2

theorem Unfinished.isOpen (hx : Unfinished x) : IsOpen x :=
  isOpen_iff.2 ⟨[], x, rfl, hx, not_isOpen_nil⟩

/-- What a step reads does not matter to what is open at the end. -/
theorem isOpen_append_iff (hstep : (step (y ++ p)).2 = y.length) (hfinished : ¬ Unfinished (y ++ p)) (hy : y ≠ []) :
    IsOpen (y ++ p) ↔ IsOpen p := by
  induction hlength : p.length using Nat.strong_induction_on generalizing p with
  | _ n ih =>
    subst hlength
    -- an unfinished end does not change the step in front of it, so the shorter list has that step as well
    have hshorter : ∀ a x, p = a ++ x → Unfinished x → (IsOpen (y ++ a) ↔ IsOpen a) := by
      rintro a x rfl hx
      have hpos : 0 < x.length := List.length_pos_iff.2 hx.ne_nil
      rw [← List.append_assoc] at hstep
      have hfinished' : ¬ Unfinished (y ++ a) :=
        hx.announces.not_unfinished (by rw [hstep, List.length_append]; exact Nat.le_add_right ..)
      rw [step_append (List.append_ne_nil_of_left_ne_nil hy a) hfinished' hx.announces] at hstep
      exact ih a.length (by rw [List.length_append]; omega) hstep hfinished' rfl
    constructor
    · intro h
      obtain ⟨a, x, heq, hx, ha⟩ := isOpen_iff.1 h
      rcases List.append_eq_append_iff.1 heq with ⟨b, rfl, rfl⟩ | ⟨b, rfl, rfl⟩
      · exact isOpen_iff.2 ⟨b, x, rfl, hx, mt (hshorter b x rfl hx).2 ha⟩
      · by_cases hb : b = []
        · subst hb
          exact hx.isOpen
        · -- the assignment would begin inside the step, which is read without it
          have hane : a ≠ [] := by
            rintro rfl
            exact hfinished hx
          rw [List.append_assoc, step_append hane (fun h => ha h.isOpen) hx.announces, List.length_append] at hstep
          have := (step_bounds hane).2
          have := List.length_pos_iff.2 hb
          omega
    · intro h
      obtain ⟨a, x, rfl, hx, ha⟩ := isOpen_iff.1 h
      exact isOpen_iff.2 ⟨y ++ a, x, (List.append_assoc ..).symm, hx, mt (hshorter a x rfl hx).1 ha⟩

/-- A step keeps what is open at the end. -/
theorem isOpen_iff_isOpen_drop (hne : p ≠ []) (hfinished : ¬ Unfinished p) :
    IsOpen p ↔ IsOpen (p.drop (step p).2) := by
  obtain ⟨hpos, hle⟩ := step_bounds hne
  have htake : (p.take (step p).2).length = (step p).2 := List.length_take_of_le hle
  have hread : p.take (step p).2 ≠ [] := List.length_pos_iff.1 (by omega)
  have hiff := isOpen_append_iff (y := p.take (step p).2) (p := p.drop (step p).2)
  rw [List.take_append_drop] at hiff
  exact hiff htake.symm hfinished hread

/-- What stands before a marker and a separator is shown in one way, and at an open end it takes the marker. -/
theorem exists_maskFrom_append (p : List Char) : ∃ shown, ∀ rest, Announces rest →
    (¬ IsOpen p → maskFrom 0 (p ++ rest) = shown ++ maskFrom 0 rest) ∧
      (IsOpen p → maskFrom 0 (p ++ rest) = shown ++ maskFrom 0 (rest.drop (reach rest))) := by
  induction hlength : p.length using Nat.strong_induction_on generalizing p with
  | _ n ih =>
    subst hlength
    by_cases hne : p = []
    · subst hne
      exact ⟨[], fun rest _ => ⟨fun _ => rfl, fun h => (not_isOpen_nil h).elim⟩⟩
    · by_cases hx : Unfinished p
      · obtain ⟨m, hm, hsecret⟩ := hx.secret?_append
        refine ⟨p.take m ++ '=' :: mask, fun rest hrest => ⟨fun h => (h hx.isOpen).elim, fun _ => ?_⟩⟩
        rw [maskFrom_eq_step (List.append_ne_nil_of_left_ne_nil hne rest), step_of_secret? (hsecret rest hrest),
          List.take_append_of_le_length hm, ← List.drop_drop, List.drop_left]
      · -- one step is read alike in front of every marker, and the induction goes on behind it
        obtain ⟨hpos, hle⟩ := step_bounds hne
        obtain ⟨shown, hshown⟩ := ih (p.drop (step p).2).length (by rw [List.length_drop]; omega) _ rfl
        refine ⟨(step p).1 ++ shown, fun rest hrest => ?_⟩
        rw [maskFrom_eq_step (List.append_ne_nil_of_left_ne_nil hne rest), step_append hne hx hrest,
          List.drop_append_of_le_length hle, isOpen_iff_isOpen_drop hne hx, List.append_assoc, List.append_assoc]
        exact (hshown rest hrest).imp (fun h hp => congrArg _ (h hp)) (fun h hp => congrArg _ (h hp))

end

/-! ## Secrets -/

/-- A value without quotes that is long enough to be masked. -/
structure IsSecret (v : List Char) : Prop where
  three_le_length : 3 ≤ v.length
  isSecretChar : ∀ c ∈ v, isSecretChar c = true

section
variable {p k sep v w q : List Char} {c : Char}

theorem isSecretChar_of_isSeparator (hc : isSeparator c = true) (hblank : Text.isBlank c = false) :
    isSecretChar c = true := by
  simp only [isSeparator, hblank, Bool.or_false, Bool.or_eq_true, decide_eq_true_eq] at hc
  rcases hc with rfl | rfl <;> decide

theorem announces_append (hk : IsMarker k) (hsep : IsGap sep) (cs : List Char) : Announces (k ++ (sep ++ cs)) := by
  obtain ⟨c, sep, rfl⟩ := List.exists_cons_of_ne_nil hsep.ne_nil
  exact ⟨k, c, sep ++ cs, hk, hsep.isSeparator c List.mem_cons_self, rfl⟩

theorem reach_append {u : List Char} (hu : ∀ c ∈ u, isSecretChar c = true)
    (hq : ∀ c ∈ q.head?, Text.isBlank c = true) : reach (u ++ q) = u.length := by
  have hends : EndsValue q := .of_isBlank hq
  have hrun := takeWhile_append_of_endsValue hu hends
  have hbehind : (u ++ q).dropWhile isSecretChar = q := by
    have hsplit := List.takeWhile_append_dropWhile (p := isSecretChar) (l := u ++ q)
    rwa [hrun, List.append_cancel_left_eq] at hsplit
  rw [reach, hrun, hbehind, quoteAt_of_isBlank hq, Nat.add_zero]

/-- Where its marker is read, a secret is masked, and of the secret only whether it has nothing but separators in it
matters to what follows. -/
theorem maskFrom_append_of_isSecret (hk : IsMarker k) (hsep : IsGap sep) (hv : IsSecret v)
    (hq : ∀ c ∈ q.head?, Text.isBlank c = true) : maskFrom 0 (k ++ (sep ++ v ++ q)) =
      k ++ '=' :: mask ++ maskFrom 0 (q.drop (if v.all isSeparator then (assignment? q).getD 0 else 0)) := by
  have hassignment : assignment? (sep ++ v ++ q) =
      some ((sep ++ v).length + if v.all isSeparator then (assignment? q).getD 0 else 0) := by
    by_cases hall : v.all isSeparator = true
    · rw [if_pos hall]
      exact assignment?_of_separators hsep hv.isSecretChar hv.three_le_length (List.all_eq_true.1 hall) hq
    · rw [if_neg hall, ← quoteAt_of_isBlank hq]
      obtain ⟨c, hc, hother⟩ := List.all_eq_false.1 (Bool.eq_false_iff.2 hall)
      refine assignment?_of_value hsep (.of_forall hv.isSecretChar) ?_ ⟨c, hc, Bool.eq_false_iff.2 hother⟩
        (.of_isBlank hq)
      rw [quoteAt_of_forall hv.isSecretChar, Nat.zero_add]
      exact hv.three_le_length
  have hsecret := secret?_append_of_isMarker hk (sep ++ v ++ q)
  rw [hassignment] at hsecret
  rw [maskFrom_eq_step (List.append_ne_nil_of_left_ne_nil hk.ne_nil _), step_of_secret? hsecret, List.take_left,
    ← List.drop_drop, List.drop_left, ← List.drop_drop, List.drop_left]

/-- An open assignment takes a marker, a gap without blanks and the secret behind it. -/
theorem drop_reach_of_not_isBlank (hk : IsMarker k) (hsep : IsGap sep) (hblank : ∀ c ∈ sep, Text.isBlank c = false)
    (hv : IsSecret v) (hq : ∀ c ∈ q.head?, Text.isBlank c = true) :
    (k ++ (sep ++ v ++ q)).drop (reach (k ++ (sep ++ v ++ q))) = q := by
  have hgap : ∀ c ∈ sep, isSecretChar c = true :=
    fun c hc => isSecretChar_of_isSeparator (hsep.isSeparator c hc) (hblank c hc)
  have hall : ∀ c ∈ k ++ (sep ++ v), isSecretChar c = true :=
    List.forall_mem_append.2 ⟨fun c hc => (hk.isSecretChar hc).1, List.forall_mem_append.2 ⟨hgap, hv.isSecretChar⟩⟩
  rw [← List.append_assoc, reach_append hall hq, List.drop_left]

/-- An open assignment takes a marker and the gap behind it up to the first blank. -/
theorem exists_drop_reach_of_isBlank (hk : IsMarker k) (hsep : IsGap sep)
    (hblank : ∃ c ∈ sep, Text.isBlank c = true) :
    ∃ left, left <:+ sep ∧ ∀ cs, (k ++ (sep ++ cs)).drop (reach (k ++ (sep ++ cs))) = left ++ cs := by
  obtain ⟨c, hc, hblank⟩ := hblank
  obtain ⟨b, hfind⟩ := Option.isSome_iff_exists.1 (List.find?_isSome.2 ⟨c, hc, hblank⟩)
  obtain ⟨hb, taken, left, rfl, htaken⟩ := List.find?_eq_some_iff_append.1 hfind
  refine ⟨b :: left, List.suffix_append .., fun cs => ?_⟩
  have hall : ∀ c ∈ k ++ taken, isSecretChar c = true := by
    refine List.forall_mem_append.2 ⟨fun c hc => (hk.isSecretChar hc).1, fun c hc => ?_⟩
    exact isSecretChar_of_isSeparator (hsep.isSeparator c (List.mem_append_left _ hc)) (by simpa using htaken c hc)
  have hsplit : k ++ (taken ++ b :: left ++ cs) = k ++ taken ++ (b :: left ++ cs) := by
    simp only [List.append_assoc]
  have hhead : ∀ c ∈ (b :: left ++ cs).head?, Text.isBlank c = true := by
    rintro _ ⟨⟩
    exact hb
  rw [hsplit, reach_append hall hhead, List.drop_left]

/-- Behind an open end and a gap with a blank in it the rest is masked as if it stood alone. -/
theorem exists_maskFrom_append_eq_append (hp : IsOpen p) (hk : IsMarker k) (hsep : IsGap sep)
    (hblank : ∃ c ∈ sep, Text.isBlank c = true) :
    ∃ shown, ∀ cs, maskFrom 0 (p ++ (k ++ (sep ++ cs))) = shown ++ maskFrom 0 cs := by
  obtain ⟨shown, hshown⟩ := exists_maskFrom_append p
  obtain ⟨left, hsuffix, hleft⟩ := exists_drop_reach_of_isBlank hk hsep hblank
  refine ⟨shown ++ left, fun cs => ?_⟩
  rw [(hshown _ (announces_append hk hsep cs)).2 hp, hleft,
    maskFrom_append_of_isSeparator fun c hc => hsep.isSeparator c (hsuffix.subset hc), List.append_assoc]

/-! ## Secrets of nothing but separators -/

/-- What stands behind the gap and the value that a list begins with, if it does. -/
def behindAssignment (q : List Char) : List Char :=
  q.drop ((assignment? q).getD 0)

/-- A value of nothing but separators is not shown as another one. -/
theorem maskFrom_append_ne (hall : v.all isSeparator = true) (hw : IsSecret w) (hother : w.all isSeparator = false)
    (hq : ∀ c ∈ q.head?, Text.isBlank c = true) : maskFrom 0 (v ++ q) ≠ maskFrom 0 (w ++ q) := by
  have hv := List.all_eq_true.1 hall
  have hexists : (w.find? fun c => !isSeparator c).isSome := by
    rw [List.find?_isSome]
    simpa using hother
  obtain ⟨d, hfind⟩ := Option.isSome_iff_exists.1 hexists
  obtain ⟨hd, front, rest, rfl, hfront⟩ := List.find?_eq_some_iff_append.1 hfind
  -- what follows is shown from its blank on, and no character of the other value is blank
  have hbehind : ∀ e x, e ∈ front ++ d :: rest → maskFrom 0 q ≠ e :: x := by
    intro e x he heq
    have hhead := head?_maskFrom q
    rw [heq] at hhead
    have hsecret := isSecretChar_eq_false_of_isBlank (hq e hhead.symm)
    rw [hw.isSecretChar e he] at hsecret
    cases hsecret
  intro hsame
  obtain ⟨shown, hshown⟩ := List.head?_eq_some_iff.1 (head?_maskFrom (d :: (rest ++ q)))
  rw [maskFrom_append_of_isSeparator hv, List.append_assoc, List.cons_append,
    maskFrom_append_of_isSeparator (by simpa using hfront), hshown] at hsame
  rcases List.append_eq_append_iff.1 hsame with ⟨b, rfl, hq'⟩ | ⟨b, rfl, hd'⟩
  · cases b with
    | nil => exact hbehind d _ (by simp) hq'
    | cons e b => exact hbehind e _ (by simp) hq'
  · cases b with
    | nil => exact hbehind d _ (by simp) hd'.symm
    | cons e b =>
      obtain ⟨rfl, -⟩ := List.cons_eq_cons.1 hd'
      rw [hv d (by simp)] at hd
      cases hd

/-- A value of nothing but separators and another one are hidden alike if an open end takes them both, or if what is
masked with the first one is no less of what follows. -/
theorem maskFrom_eq_iff_of_separators (hk : IsMarker k) (hsep : IsGap sep) (hv : IsSecret v)
    (hall : v.all isSeparator = true) (hw : IsSecret w) (hother : w.all isSeparator = false)
    (hq : ∀ c ∈ q.head?, Text.isBlank c = true) :
    maskFrom 0 (p ++ (k ++ (sep ++ v ++ q))) = maskFrom 0 (p ++ (k ++ (sep ++ w ++ q))) ↔
      (IsOpen p → ∀ c ∈ sep, Text.isBlank c = false) ∧
      (¬ IsOpen p → maskFrom 0 (behindAssignment q) = maskFrom 0 q) := by
  have hannounces : ∀ u, Announces (k ++ (sep ++ u ++ q)) := by
    intro u
    rw [List.append_assoc]
    exact announces_append hk hsep _
  by_cases hopen : IsOpen p
  · by_cases hblank : ∃ c ∈ sep, Text.isBlank c = true
    · obtain ⟨shown, hshown⟩ := exists_maskFrom_append_eq_append hopen hk hsep hblank
      rw [List.append_assoc, List.append_assoc, hshown, hshown, List.append_cancel_left_eq]
      refine iff_of_false (maskFrom_append_ne hall hw hother hq) fun h => ?_
      obtain ⟨c, hc, hblank⟩ := hblank
      rw [h.1 hopen c hc] at hblank
      cases hblank
    · push Not at hblank
      simp only [ne_eq, Bool.not_eq_true] at hblank
      obtain ⟨shown, hshown⟩ := exists_maskFrom_append p
      rw [(hshown _ (hannounces v)).2 hopen, (hshown _ (hannounces w)).2 hopen,
        drop_reach_of_not_isBlank hk hsep hblank hv hq, drop_reach_of_not_isBlank hk hsep hblank hw hq]
      exact iff_of_true rfl ⟨fun _ => hblank, fun h => absurd hopen h⟩
  · obtain ⟨shown, hshown⟩ := exists_maskFrom_append p
    rw [(hshown _ (hannounces v)).1 hopen, (hshown _ (hannounces w)).1 hopen, maskFrom_append_of_isSecret hk hsep hv hq,
      maskFrom_append_of_isSecret hk hsep hw hq, if_pos hall, hother, List.append_cancel_left_eq,
      List.append_cancel_left_eq]
    exact ⟨fun h => ⟨fun ho => absurd ho hopen, fun _ => h⟩, fun h => h.2 hopen⟩

end

/-- A text hides a secret behind its marker, whatever stands before and behind, unless an open assignment takes the
marker and the gap has a blank. A secret of nothing but separators is hidden like another one only if, besides, what
follows it is masked in the same way without the assignment at its beginning. -/
theorem redactText_eq_iff (p : String) {k s : String} (hk : IsMarker k.toList) (hs : IsGap s.toList) :
    ((∀ v w q : String, IsSecret v.toList → IsSecret w.toList →
      v.toList.all isSeparator = w.toList.all isSeparator → (∀ c ∈ q.toList.head?, Text.isBlank c = true) →
      redactText (p ++ k ++ s ++ v ++ q) = redactText (p ++ k ++ s ++ w ++ q)) ↔
    (IsOpen p.toList → ∀ c ∈ s.toList, Text.isBlank c = false)) ∧
    ∀ v w q : String, IsSecret v.toList → IsSecret w.toList →
      v.toList.all isSeparator ≠ w.toList.all isSeparator → (∀ c ∈ q.toList.head?, Text.isBlank c = true) →
      (redactText (p ++ k ++ s ++ v ++ q) = redactText (p ++ k ++ s ++ w ++ q) ↔
        (IsOpen p.toList → ∀ c ∈ s.toList, Text.isBlank c = false) ∧
        (¬ IsOpen p.toList → redactText (String.ofList (behindAssignment q.toList)) = redactText q)) := by
  obtain ⟨shown, hshown⟩ := exists_maskFrom_append p.toList
  have htext : ∀ v q : String, (p ++ k ++ s ++ v ++ q).toList =
      p.toList ++ (k.toList ++ (s.toList ++ v.toList ++ q.toList)) := by
    intro v q
    simp only [String.toList_append, List.append_assoc]
  have hannounces : ∀ v q : String, Announces (k.toList ++ (s.toList ++ v.toList ++ q.toList)) := by
    intro v q
    rw [List.append_assoc]
    exact announces_append hk hs _
  refine ⟨⟨fun hhides hopen c hc => ?_, fun hblank v w q hv hw hkind hq => ?_⟩, fun v w q hv hw hkind hq => ?_⟩
  · by_contra hblank
    obtain ⟨shown, hshown⟩ := exists_maskFrom_append_eq_append hopen hk hs ⟨c, hc, by simpa using hblank⟩
    have hsame := hhides "xxx" "zzz" "" ⟨by decide, List.all_eq_true.1 rfl⟩ ⟨by decide, List.all_eq_true.1 rfl⟩
      rfl nofun
    rw [redactText, redactText, String.ofList_inj, htext, htext, String.toList_empty, List.append_nil,
      List.append_nil, hshown, hshown, List.append_cancel_left_eq] at hsame
    exact absurd hsame (by decide)
  · unfold redactText
    rw [htext, htext]
    by_cases hopen : IsOpen p.toList
    · rw [(hshown _ (hannounces v q)).2 hopen, (hshown _ (hannounces w q)).2 hopen,
        drop_reach_of_not_isBlank hk hs (hblank hopen) hv hq, drop_reach_of_not_isBlank hk hs (hblank hopen) hw hq]
    · rw [(hshown _ (hannounces v q)).1 hopen, (hshown _ (hannounces w q)).1 hopen,
        maskFrom_append_of_isSecret hk hs hv hq, maskFrom_append_of_isSecret hk hs hw hq, hkind]
  · unfold redactText
    rw [String.ofList_inj, String.ofList_inj, htext, htext, String.toList_ofList]
    cases hall : v.toList.all isSeparator with
    | true =>
      rw [hall, ne_eq, eq_comm, Bool.not_eq_true] at hkind
      exact maskFrom_eq_iff_of_separators hk hs hv hall hw hkind hq
    | false =>
      rw [hall, ne_eq, eq_comm, Bool.not_eq_false] at hkind
      rw [eq_comm]
      exact maskFrom_eq_iff_of_separators hk hs hw hkind hv hall hq

/-- The first marker is open, but the gap behind the second one has no blank. -/
theorem redactText_bearerToken_masked : IsMarker "Token".toList ∧ IsGap "=".toList ∧
    redactText ("bearer " ++ "Token" ++ "=" ++ "abcdef" ++ " sent") =
      redactText ("bearer " ++ "Token" ++ "=" ++ "123" ++ " sent") := by
  have hk : IsMarker "Token".toList := by decide
  have hs : IsGap "=".toList := ⟨by decide, List.all_eq_true.1 rfl⟩
  have hblank : ∀ c ∈ "=".toList, Text.isBlank c = false := List.forall_mem_singleton.2 rfl
  refine ⟨hk, hs, (redactText_eq_iff "bearer " hk hs).1.2 (fun _ => hblank) "abcdef" "123" " sent"
    ⟨by decide, List.all_eq_true.1 rfl⟩ ⟨by decide, List.all_eq_true.1 rfl⟩ rfl ?_⟩
  rintro c ⟨⟩
  rfl

/-- With a blank in the gap the second marker is masked in place of the secret. -/
theorem redactText_bearerToken_shown : IsMarker "token".toList ∧ IsGap ": ".toList ∧ IsSecret "abcdef".toList ∧
    IsSecret "***".toList ∧ redactText ("bearer " ++ "token" ++ ": " ++ "abcdef" ++ "") = "bearer=*** abcdef" ∧
      redactText ("bearer " ++ "token" ++ ": " ++ "abcdef" ++ "") ≠
        redactText ("bearer " ++ "token" ++ ": " ++ "***" ++ "") := by
  have hshown : redactText ("bearer " ++ "token" ++ ": " ++ "abcdef" ++ "") = "bearer=*** abcdef" := rfl
  have hmasked : redactText ("bearer " ++ "token" ++ ": " ++ "***" ++ "") = "bearer=*** ***" := rfl
  refine ⟨by decide, ⟨by decide, List.all_eq_true.1 rfl⟩, ⟨by decide, List.all_eq_true.1 rfl⟩,
    ⟨by decide, List.all_eq_true.1 rfl⟩, hshown, ?_⟩
  rw [hshown, hmasked]
  decide

/-- A value of separators is read as a part of the gap when a longer one follows. -/
example : redactText "token=::: abcdef" = "token=***" := rfl

end FieldRules.Redaction
