/-
Assignments: a marker, a gap and a value. The gap is read as long as it can be and is shortened until a value fits
behind it, so it may reach into the value; where the assignment ends does not depend on that unless the value has
nothing but separators in it (`assignment?_of_value`, `assignment?_of_separators`).
-/
import FieldRules.Proofs.Redaction.Marker
import Mathlib.Data.Nat.Init

namespace FieldRules.Redaction

/-! ## Quotes -/

/-- One quote is taken before a secret and one behind it. -/
def quoteAt (cs : List Char) : Nat :=
  if (cs.head?.map isQuote).getD false then 1 else 0

section
variable {cs body v q : List Char} {c : Char}

theorem isQuote_eq_false (hc : isSecretChar c = true) : isQuote c = false := by
  rw [isSecretChar, Bool.and_eq_true, Bool.not_eq_true', Bool.not_eq_true'] at hc
  exact hc.2

theorem isSecretChar_eq_false_of_isBlank (hc : Text.isBlank c = true) : isSecretChar c = false := by
  rw [isSecretChar, hc]
  rfl

theorem isQuote_eq_false_of_isBlank (hc : Text.isBlank c = true) : isQuote c = false := by
  by_contra hquote
  rw [Bool.not_eq_false, isQuote, Bool.or_eq_true, decide_eq_true_eq, decide_eq_true_eq] at hquote
  rcases hquote with rfl | rfl <;> exact absurd hc (by decide)

theorem quoteAt_cons : quoteAt (c :: cs) = if isQuote c then 1 else 0 := rfl

theorem quoteAt_append (hne : v ≠ []) (q : List Char) : quoteAt (v ++ q) = quoteAt v := by
  obtain ⟨c, v, rfl⟩ := List.exists_cons_of_ne_nil hne
  rfl

theorem quoteAt_le_one (cs : List Char) : quoteAt cs ≤ 1 := by
  rw [quoteAt]
  split <;> omega

theorem quoteAt_le_length (cs : List Char) : quoteAt cs ≤ cs.length := by
  cases cs with
  | nil => exact Nat.le_refl 0
  | cons c cs => exact Nat.le_trans (quoteAt_le_one _) (Nat.le_add_left 1 _)

theorem quoteAt_eq_zero (h : ∀ c ∈ cs.head?, isQuote c = false) : quoteAt cs = 0 := by
  cases cs with
  | nil => rfl
  | cons c cs =>
    rw [quoteAt_cons, h c rfl]
    rfl

theorem quoteAt_of_isBlank (hq : ∀ c ∈ q.head?, Text.isBlank c = true) : quoteAt q = 0 :=
  quoteAt_eq_zero fun c hc => isQuote_eq_false_of_isBlank (hq c hc)

theorem quoteAt_of_forall (hv : ∀ c ∈ v, isSecretChar c = true) : quoteAt v = 0 :=
  quoteAt_eq_zero fun c hc => isQuote_eq_false (hv c (List.mem_of_mem_head? hc))

end

/-! ## Values -/

/-- A secret and the quote behind it. -/
def bodySize? (cs : List Char) : Option Nat :=
  let size := (cs.takeWhile isSecretChar).length
  if size < 3 then none else some (size + quoteAt (cs.drop size))

/-- The beginning of a value: a quote or none, then characters of a secret. -/
def IsValueStart (v : List Char) : Prop :=
  ∀ c ∈ v.drop (quoteAt v), isSecretChar c = true

/-- A list that no value goes on into. -/
def EndsValue (q : List Char) : Prop :=
  ∀ c ∈ q.head?, isSecretChar c = false

section
variable {cs body v q : List Char}

theorem EndsValue.of_isBlank (hq : ∀ c ∈ q.head?, Text.isBlank c = true) : EndsValue q :=
  fun c hc => isSecretChar_eq_false_of_isBlank (hq c hc)

theorem takeWhile_append_of_endsValue (hbody : ∀ c ∈ body, isSecretChar c = true) (hq : EndsValue q) :
    (body ++ q).takeWhile isSecretChar = body := by
  have hstop : q.takeWhile isSecretChar = [] := by
    cases q with
    | nil => rfl
    | cons c q => exact List.takeWhile_cons_of_neg (by rw [hq c rfl]; decide)
  rw [List.takeWhile_append_of_pos hbody, hstop, List.append_nil]

theorem bodySize?_append (hbody : ∀ c ∈ body, isSecretChar c = true) (hq : EndsValue q) :
    bodySize? (body ++ q) = if body.length < 3 then none else some (body.length + quoteAt q) := by
  rw [bodySize?, takeWhile_append_of_endsValue hbody hq, List.drop_left]

/-- A secret that ends before the end of a list is the same when the list goes on. -/
theorem bodySize?_append_of_exists (h : ∃ c ∈ cs, isSecretChar c = false) (rest : List Char) :
    bodySize? (cs ++ rest) = bodySize? cs := by
  obtain ⟨c, hc, hstop⟩ := h
  have hfind : (cs.find? fun c => !isSecretChar c).isSome = true :=
    List.find?_isSome.2 ⟨c, hc, by rw [hstop]; rfl⟩
  obtain ⟨d, hfind⟩ := Option.isSome_iff_exists.1 hfind
  obtain ⟨hd, body, q, rfl, hbody⟩ := List.find?_eq_some_iff_append.1 hfind
  simp only [Bool.not_eq_true', Bool.not_not] at hd hbody
  have hends : ∀ q, EndsValue (d :: q) := by
    rintro q _ ⟨⟩
    exact hd
  rw [List.append_assoc, List.cons_append, bodySize?_append hbody (hends _), bodySize?_append hbody (hends _)]
  rfl

theorem valueSize?_eq (cs : List Char) :
    valueSize? cs = (bodySize? (cs.drop (quoteAt cs))).map (quoteAt cs + ·) := by
  show (if ((cs.drop (quoteAt cs)).takeWhile isSecretChar).length < 3 then none else
    some (quoteAt cs + ((cs.drop (quoteAt cs)).takeWhile isSecretChar).length + quoteAt _)) = _
  rw [bodySize?]
  split
  · rfl
  · exact congrArg some (Nat.add_assoc ..)

theorem valueSize?_append (hv : IsValueStart v) (hne : v ≠ []) (hq : EndsValue q) :
    valueSize? (v ++ q) = if v.length - quoteAt v < 3 then none else some (v.length + quoteAt q) := by
  have hle := quoteAt_le_length v
  rw [valueSize?_eq, quoteAt_append hne, List.drop_append_of_le_length hle, bodySize?_append hv hq,
    List.length_drop]
  split
  · rfl
  · rw [Option.map_some, ← Nat.add_assoc, Nat.add_sub_cancel' hle]

theorem valueSize?_append_of_not_isValueStart (h : ¬ IsValueStart cs) (rest : List Char) :
    valueSize? (cs ++ rest) = valueSize? cs := by
  have hne : cs ≠ [] := by
    rintro rfl
    exact h nofun
  have hends : ∃ c ∈ cs.drop (quoteAt cs), isSecretChar c = false := by
    simpa only [IsValueStart, not_forall, Bool.not_eq_true, exists_prop] using h
  rw [valueSize?_eq, valueSize?_eq, quoteAt_append hne, List.drop_append_of_le_length (quoteAt_le_length cs),
    bodySize?_append_of_exists hends]

theorem valueSize?_of_isBlank (hq : ∀ c ∈ q.head?, Text.isBlank c = true) : valueSize? q = none := by
  rw [valueSize?_eq, quoteAt_of_isBlank hq, List.drop_zero, ← List.nil_append q,
    bodySize?_append (List.forall_mem_nil _) (.of_isBlank hq)]
  rfl

theorem bodySize?_le_length {n : Nat} (h : bodySize? cs = some n) : n ≤ cs.length := by
  have hrun := (List.takeWhile_prefix isSecretChar (l := cs)).length_le
  rw [bodySize?] at h
  split at h
  · cases h
  · cases h
    have hclosing := quoteAt_le_length (cs.drop (cs.takeWhile isSecretChar).length)
    rw [List.length_drop] at hclosing
    omega

theorem valueSize?_le_length {n : Nat} (h : valueSize? cs = some n) : n ≤ cs.length := by
  rw [valueSize?_eq, Option.map_eq_some_iff] at h
  obtain ⟨size, hsize, rfl⟩ := h
  have hbody := bodySize?_le_length hsize
  have hopening := quoteAt_le_length cs
  rw [List.length_drop] at hbody
  omega

theorem IsValueStart.of_forall (h : ∀ c ∈ v, isSecretChar c = true) : IsValueStart v :=
  fun c hc => h c (List.mem_of_mem_drop hc)

theorem IsValueStart.append (hv : IsValueStart v) (hbody : ∀ c ∈ body, isSecretChar c = true) :
    IsValueStart (v ++ body) := by
  by_cases hne : v = []
  · subst hne
    exact of_forall hbody
  · rw [IsValueStart, quoteAt_append hne, List.drop_append_of_le_length (quoteAt_le_length v)]
    exact List.forall_mem_append.2 ⟨hv, hbody⟩

theorem IsValueStart.drop (hv : IsValueStart v) (n : Nat) : IsValueStart (v.drop n) := by
  cases n with
  | zero => exact hv
  | succ n =>
    refine of_forall fun c hc => hv c ?_
    exact List.drop_subset_drop_left v (Nat.le_trans (quoteAt_le_one v) (Nat.le_add_left 1 n)) hc

/-- The quote of a value that goes on is there already. -/
theorem quoteAt_append_le (v : List Char) (hbody : ∀ c ∈ body, isSecretChar c = true) :
    quoteAt (v ++ body) ≤ v.length := by
  by_cases hne : v = []
  · subst hne
    exact Nat.le_of_eq (quoteAt_of_forall hbody)
  · rw [quoteAt_append hne]
    exact quoteAt_le_length v

/-- Wherever a value is entered, it ends at the same place. -/
theorem IsValueStart.valueSize?_drop (hv : IsValueStart v) (hq : EndsValue q) {j size : Nat} (hj : j < v.length)
    (hsize : valueSize? (v.drop j ++ q) = some size) : j + size = v.length + quoteAt q := by
  have hne : v.drop j ≠ [] := fun h => absurd (List.drop_eq_nil_iff.1 h) (Nat.not_le.2 hj)
  rw [valueSize?_append (hv.drop j) hne hq] at hsize
  split at hsize
  · cases hsize
  · cases hsize
    rw [List.length_drop]
    omega

end

/-! ## Gaps -/

/-- One separator or more. -/
structure IsGap (sep : List Char) : Prop where
  ne_nil : sep ≠ []
  isSeparator : ∀ c ∈ sep, isSeparator c = true

/-- The number of characters of a gap and a value. -/
def assignment? (cs : List Char) : Option Nat :=
  assignmentSize? cs (cs.takeWhile isSeparator).length

section
variable {cs u v q rest : List Char} {n total : Nat}

/-- If all gaps behind which a value fits lead to one end, then the assignment has that end. -/
theorem assignmentSize?_eq_some (lo size : Nat) (hpos : 0 < lo) (hlo : valueSize? (cs.drop lo) = some size)
    (htotal : lo + size = total)
    (hall : ∀ m size, lo < m → m ≤ n → valueSize? (cs.drop m) = some size → m + size = total) (hle : lo ≤ n) :
    assignmentSize? cs n = some total := by
  -- on the longest gap allowed, from the shortest one that is known to lead to a value
  induction n, hle using Nat.le_induction with
  | base =>
    obtain ⟨lo, rfl⟩ := Nat.exists_eq_add_one_of_ne_zero (Nat.pos_iff_ne_zero.1 hpos)
    rw [assignmentSize?, hlo, ← htotal]
  | succ n hle ih =>
    rw [assignmentSize?]
    cases hsize : valueSize? (cs.drop (n + 1)) with
    | none => exact ih fun m size hm hmn => hall m size hm (by omega)
    | some size => exact congrArg some (hall (n + 1) size (by omega) (Nat.le_refl _) hsize)

theorem assignmentSize?_append_of_not_isValueStart (h : ∀ m, 0 < m → m ≤ n → ¬ IsValueStart (cs.drop m))
    (hle : n ≤ cs.length) : assignmentSize? (cs ++ rest) n = assignmentSize? cs n := by
  induction n with
  | zero => rfl
  | succ n ih =>
    rw [assignmentSize?, assignmentSize?, List.drop_append_of_le_length hle,
      valueSize?_append_of_not_isValueStart (h (n + 1) (Nat.succ_pos n) (Nat.le_refl _)),
      ih (fun m hm hmn => h m hm (by omega)) (by omega)]

/-- A gap that goes on behind `u` is read first there. -/
theorem assignmentSize?_append_add (u q : List Char) (j : Nat) : assignmentSize? (u ++ q) (u.length + j) =
    ((assignmentSize? q j).map (u.length + ·)).or (assignmentSize? (u ++ q) u.length) := by
  induction j with
  | zero => rfl
  | succ j ih =>
    rw [← Nat.add_assoc, assignmentSize?, assignmentSize?, Nat.add_assoc, List.drop_append]
    rw [List.drop_eq_nil_of_le (Nat.le_add_right ..), List.nil_append, Nat.add_sub_cancel_left]
    cases valueSize? (q.drop (j + 1)) with
    | none => exact ih
    | some size => exact congrArg some (Nat.add_assoc ..)

theorem length_takeWhile_append (hu : ∀ c ∈ u, isSeparator c = true) (q : List Char) :
    ((u ++ q).takeWhile isSeparator).length = u.length + (q.takeWhile isSeparator).length := by
  rw [List.takeWhile_append_of_pos hu, List.length_append]

theorem isSeparator_of_mem_take (h : n ≤ (cs.takeWhile isSeparator).length) :
    ∀ c ∈ cs.take n, isSeparator c = true := by
  have hpre : cs.take n <+: cs.takeWhile isSeparator := List.prefix_of_prefix_length_le (List.take_prefix ..)
    (List.takeWhile_prefix _) (Nat.le_trans (List.length_take_le ..) h)
  exact fun c hc => List.all_eq_true.1 List.all_takeWhile c (hpre.subset hc)

/-- The separators at the beginning of a value end before the value does, if it has other characters. -/
theorem length_takeWhile_append_lt (h : ∃ c ∈ v, isSeparator c = false) (q : List Char) :
    ((v ++ q).takeWhile isSeparator).length < v.length := by
  induction v with
  | nil => simp at h
  | cons c v ih =>
    rw [List.cons_append]
    by_cases hc : isSeparator c = true
    · rw [List.takeWhile_cons_of_pos hc, List.length_cons, List.length_cons]
      refine Nat.succ_lt_succ (ih ?_)
      obtain ⟨d, hd, hd'⟩ := h
      rcases List.mem_cons.1 hd with rfl | hd
      · rw [hc] at hd'
        cases hd'
      · exact ⟨d, hd, hd'⟩
    · rw [List.takeWhile_cons_of_neg hc, List.length_cons]
      exact Nat.succ_pos _

variable {sep : List Char}

/-- An assignment ends behind its value. -/
theorem assignment?_of_value (hsep : IsGap sep) (hv : IsValueStart v) (hlong : quoteAt v + 3 ≤ v.length)
    (hother : ∃ c ∈ v, isSeparator c = false) (hq : EndsValue q) :
    assignment? (sep ++ v ++ q) = some ((sep ++ v).length + quoteAt q) := by
  have hpos : 0 < sep.length := List.length_pos_iff.2 hsep.ne_nil
  have hne : v ≠ [] := List.length_pos_iff.1 (by omega)
  have hrun := length_takeWhile_append_lt hother q
  rw [assignment?, List.append_assoc, length_takeWhile_append hsep.isSeparator, List.length_append]
  refine assignmentSize?_eq_some sep.length (v.length + quoteAt q) hpos ?_ (by omega) ?_ (Nat.le_add_right ..)
  · rw [List.drop_left, valueSize?_append hv hne hq, if_neg (by omega)]
  · -- a gap that reaches into the value leaves less of it, up to the same end
    intro m size hm hle hsize
    obtain ⟨j, rfl⟩ := Nat.exists_eq_add_of_le (Nat.le_of_lt hm)
    rw [← List.drop_drop, List.drop_left, List.drop_append_of_le_length (by omega)] at hsize
    have := hv.valueSize?_drop hq (by omega) hsize
    omega

/-- A gap that may reach to the end of a value leaves its last three characters to it. -/
theorem assignmentSize?_of_isBlank (hpos : 0 < sep.length) (hv : ∀ c ∈ v, isSecretChar c = true)
    (hlong : 3 ≤ v.length) (hq : ∀ c ∈ q.head?, Text.isBlank c = true) :
    assignmentSize? (sep ++ (v ++ q)) (sep.length + v.length) = some (sep.length + v.length) := by
  have hstart : IsValueStart v := .of_forall hv
  have hends : EndsValue q := .of_isBlank hq
  have hquote : quoteAt q = 0 := quoteAt_of_isBlank hq
  refine assignmentSize?_eq_some (sep.length + (v.length - 3)) 3 (by omega) ?_ (by omega) ?_ (by omega)
  · have hlast : (v.drop (v.length - 3)).length = 3 := by rw [List.length_drop]; omega
    rw [← List.drop_drop, List.drop_left, List.drop_append_of_le_length (by omega),
      valueSize?_append (hstart.drop _) (List.length_pos_iff.1 (by omega)) hends, hlast,
      quoteAt_of_forall fun c hc => hv c (List.mem_of_mem_drop hc), hquote]
    rfl
  · intro m size hm hle hsize
    obtain ⟨j, rfl⟩ := Nat.exists_eq_add_of_le (show sep.length ≤ m by omega)
    rw [← List.drop_drop, List.drop_left, List.drop_append_of_le_length (by omega)] at hsize
    rcases Nat.lt_or_ge j v.length with hj | hj
    · have := hstart.valueSize?_drop hends hj hsize
      omega
    · rw [List.drop_eq_nil_of_le hj, List.nil_append, valueSize?_of_isBlank hq] at hsize
      cases hsize

/-- If a value has nothing but separators in it and a value fits behind it and a gap, then that one is taken. -/
theorem assignment?_of_separators (hsep : IsGap sep) (hv : ∀ c ∈ v, isSecretChar c = true) (hlong : 3 ≤ v.length)
    (hall : ∀ c ∈ v, isSeparator c = true) (hq : ∀ c ∈ q.head?, Text.isBlank c = true) :
    assignment? (sep ++ v ++ q) = some ((sep ++ v).length + (assignment? q).getD 0) := by
  have hgap : ∀ c ∈ sep ++ v, isSeparator c = true := List.forall_mem_append.2 ⟨hsep.isSeparator, hall⟩
  have hown := assignmentSize?_of_isBlank (List.length_pos_iff.2 hsep.ne_nil) hv hlong hq
  rw [← List.append_assoc, ← List.length_append] at hown
  rw [assignment?, length_takeWhile_append hgap, assignmentSize?_append_add, hown, assignment?]
  cases assignmentSize? q (q.takeWhile isSeparator).length <;> rfl

end

/-! ## Markers with assignments -/

/-- An assignment whose value can go on behind the list. -/
def Unfinished (x : List Char) : Prop :=
  ∃ k sep v, IsMarker k ∧ IsGap sep ∧ IsValueStart v ∧ x = k ++ (sep ++ v)

/-- A list with a marker and a separator at its beginning. -/
def Announces (rest : List Char) : Prop :=
  ∃ k c t, IsMarker k ∧ isSeparator c = true ∧ rest = k ++ c :: t

/-- The number of characters that go to a value before the list. -/
def reach (rest : List Char) : Nat :=
  (rest.takeWhile isSecretChar).length + quoteAt (rest.dropWhile isSecretChar)

section
variable {cs k t x rest : List Char} {m n : Nat}

theorem secret?_append_of_isMarker (hk : IsMarker k) (t : List Char) :
    secret? (k ++ t) = (assignment? t).map fun n => (k.length, k.length + n) := by
  have hfind : (textMarkers.findSome? fun word => wordSize? word (k ++ t)) = some k.length :=
    marker?_eq_some_iff.2 ⟨k, t, hk, rfl, rfl⟩
  rw [secret?, hfind]
  simp only [List.drop_left]
  rfl

theorem assignment?_of_head?_not_isSeparator (h : ∀ c ∈ cs.head?, isSeparator c = false) :
    assignment? cs = none := by
  cases cs with
  | nil => rfl
  | cons c cs =>
    rw [assignment?, List.takeWhile_cons_of_neg (by rw [h c rfl]; decide)]
    rfl

theorem secret?_eq_none (h : ∀ k, IsMarker k → ¬ k <+: cs) : secret? cs = none := by
  have hfind : (textMarkers.findSome? fun word => wordSize? word cs) = none := by
    rw [Option.eq_none_iff_forall_ne_some]
    intro n hn
    obtain ⟨k, rest, hk, rfl, -⟩ := marker?_eq_some_iff.1 hn
    exact h k hk (List.prefix_append k rest)
  rw [secret?, hfind]

/-- An assignment that is found begins with a marker. -/
theorem exists_isMarker_of_secret? (h : secret? cs = some (m, n)) :
    ∃ k t, IsMarker k ∧ cs = k ++ t ∧ m = k.length ∧ ∃ size, assignment? t = some size ∧ n = m + size := by
  by_cases hmarker : ∃ k, IsMarker k ∧ k <+: cs
  · obtain ⟨k, hk, t, rfl⟩ := hmarker
    rw [secret?_append_of_isMarker hk, Option.map_eq_some_iff] at h
    obtain ⟨size, hsize, heq⟩ := h
    cases heq
    exact ⟨k, t, hk, rfl, rfl, size, hsize, rfl⟩
  · rw [secret?_eq_none fun k hk hle => hmarker ⟨k, hk, hle⟩] at h
    cases h

theorem assignmentSize?_bounds {count : Nat} (hcount : count ≤ cs.length) (h : assignmentSize? cs count = some n) :
    0 < n ∧ n ≤ cs.length := by
  induction count with
  | zero => cases h
  | succ count ih =>
    rw [assignmentSize?] at h
    split at h
    · next size hsize =>
      cases h
      have := valueSize?_le_length hsize
      rw [List.length_drop] at this
      omega
    · exact ih (by omega) h

theorem secret?_bounds (h : secret? cs = some (m, n)) : m < n ∧ n ≤ cs.length := by
  by_cases hmarker : ∃ k, IsMarker k ∧ k <+: cs
  · obtain ⟨k, hk, t, rfl⟩ := hmarker
    rw [secret?_append_of_isMarker hk, Option.map_eq_some_iff] at h
    obtain ⟨n, hn, heq⟩ := h
    cases heq
    have := assignmentSize?_bounds (List.takeWhile_prefix isSeparator).length_le hn
    rw [List.length_append]
    omega
  · rw [secret?_eq_none fun k hk hle => hmarker ⟨k, hk, hle⟩] at h
    cases h

theorem Unfinished.ne_nil (hx : Unfinished x) : x ≠ [] := by
  obtain ⟨k, sep, v, hk, -, -, rfl⟩ := hx
  exact List.append_ne_nil_of_left_ne_nil hk.ne_nil _

theorem Unfinished.announces (hx : Unfinished x) : Announces x := by
  obtain ⟨k, sep, v, hk, hsep, -, rfl⟩ := hx
  obtain ⟨c, sep, rfl⟩ := List.exists_cons_of_ne_nil hsep.ne_nil
  exact ⟨k, c, sep ++ v, hk, hsep.isSeparator c List.mem_cons_self, rfl⟩

/-- A marker is taken by a value before it. -/
theorem Announces.exists_prefix (hrest : Announces rest) :
    ∃ k, IsMarker k ∧ k <+: rest.takeWhile isSecretChar := by
  obtain ⟨k, c, t, hk, -, rfl⟩ := hrest
  refine ⟨k, hk, ?_⟩
  rw [List.takeWhile_append_of_pos fun c hc => (hk.isSecretChar hc).1]
  exact List.prefix_append ..

theorem Announces.three_le_length (hrest : Announces rest) : 3 ≤ (rest.takeWhile isSecretChar).length := by
  obtain ⟨k, hk, hle⟩ := hrest.exists_prefix
  exact Nat.le_trans hk.three_le_length hle.length_le

theorem Announces.reach_pos (hrest : Announces rest) : 0 < reach rest := by
  have := hrest.three_le_length
  rw [reach]
  omega

theorem Announces.assignment?_eq_none (hrest : Announces rest) : assignment? rest = none := by
  obtain ⟨k, c, t, hk, -, rfl⟩ := hrest
  obtain ⟨d, k, rfl⟩ := List.exists_cons_of_ne_nil hk.ne_nil
  refine assignment?_of_head?_not_isSeparator ?_
  rintro _ ⟨⟩
  exact (hk.isSecretChar List.mem_cons_self).2

/-- A value that is long enough goes on up to the end of its secret. -/
theorem secret?_of_value {sep v : List Char} (hk : IsMarker k) (hsep : IsGap sep) (hv : IsValueStart v)
    (hlong : quoteAt (v ++ rest.takeWhile isSecretChar) + 3 ≤ (v ++ rest.takeWhile isSecretChar).length)
    (hother : ∃ c ∈ v ++ rest.takeWhile isSecretChar, isSeparator c = false) :
    secret? (k ++ (sep ++ v) ++ rest) = some (k.length, (k ++ (sep ++ v)).length + reach rest) := by
  have hsecret : ∀ c ∈ rest.takeWhile isSecretChar, isSecretChar c = true := List.all_eq_true.1 List.all_takeWhile
  have hends : EndsValue (rest.dropWhile isSecretChar) := by
    intro c hc
    have := List.head?_dropWhile_not isSecretChar rest
    rw [hc] at this
    exact this
  have hsplit : k ++ (sep ++ v) ++ rest =
      k ++ (sep ++ (v ++ rest.takeWhile isSecretChar) ++ rest.dropWhile isSecretChar) := by
    simp only [List.append_assoc, List.takeWhile_append_dropWhile]
  rw [hsplit, secret?_append_of_isMarker hk, assignment?_of_value hsep (hv.append hsecret) hlong hother hends,
    Option.map_some, reach]
  simp only [List.length_append, Nat.add_assoc]

/-- The value of an unfinished assignment goes on through a marker behind it. -/
theorem Unfinished.secret?_append (hx : Unfinished x) : ∃ m ≤ x.length, ∀ rest, Announces rest →
    secret? (x ++ rest) = some (m, x.length + reach rest) := by
  obtain ⟨k, sep, v, hk, hsep, hv, rfl⟩ := hx
  refine ⟨k.length, List.length_append ▸ Nat.le_add_right .., fun rest hrest => secret?_of_value hk hsep hv ?_ ?_⟩
  · rw [List.length_append]
    exact Nat.add_le_add (quoteAt_append_le v (List.all_eq_true.1 List.all_takeWhile)) hrest.three_le_length
  · obtain ⟨k', hk', hle⟩ := hrest.exists_prefix
    obtain ⟨c, hc⟩ := List.exists_mem_of_ne_nil k' hk'.ne_nil
    exact ⟨c, List.mem_append_right _ (hle.subset hc), (hk'.isSecretChar hc).2⟩

/-- What is read behind a marker is the same when something follows, unless a value is unfinished there. -/
theorem assignment?_append_of_ne_nil (hk : IsMarker k) (hx : ¬ Unfinished (k ++ t)) (ht : t ≠ [])
    (rest : List Char) : assignment? (t ++ rest) = assignment? t := by
  have hle := (List.takeWhile_prefix isSeparator (l := t)).length_le
  have hfinished : ∀ m, 0 < m → m ≤ (t.takeWhile isSeparator).length → ¬ IsValueStart (t.drop m) := by
    intro m hpos hm hv
    have hne : t.take m ≠ [] := List.length_pos_iff.1 (by rw [List.length_take]; omega)
    exact hx ⟨k, t.take m, t.drop m, hk, ⟨hne, isSeparator_of_mem_take hm⟩, hv, by rw [List.take_append_drop]⟩
  -- a gap at the end is unfinished, so there is none
  have hall : (t.takeWhile isSeparator).length ≠ t.length := by
    intro hall
    refine hfinished t.length (List.length_pos_iff.2 ht) (Nat.le_of_eq hall.symm) ?_
    rw [List.drop_length]
    exact nofun
  rw [assignment?, List.takeWhile_append, if_neg hall, assignmentSize?_append_of_not_isValueStart hfinished hle]
  rfl

theorem assignment?_append (hk : IsMarker k) (hx : ¬ Unfinished (k ++ t)) (hrest : Announces rest) :
    assignment? (t ++ rest) = assignment? t := by
  by_cases ht : t = []
  · subst ht
    exact hrest.assignment?_eq_none
  · exact assignment?_append_of_ne_nil hk hx ht rest

/-- A marker that begins before a marker with a separator and ends in it has no separator behind it. -/
theorem Announces.not_isSeparator_of_overlap (hrest : Announces rest) (hne : x ≠ []) (hk : IsMarker k)
    (hover : x <+: k) (heq : k ++ t = x ++ rest) : ∀ c ∈ t.head?, isSeparator c = false := by
  obtain ⟨k', c, t', hk', hc, rfl⟩ := hrest
  obtain ⟨u, rfl⟩ := hover
  have hproper : u ≠ k' := by
    rintro rfl
    exact hne (List.self_eq_append_left.1 (hk'.eq_of_suffix hk (List.suffix_append x u)))
  rw [List.append_assoc, List.append_cancel_left_eq, List.append_eq_append_iff] at heq
  rcases heq with ⟨w, rfl, rfl⟩ | ⟨w, rfl, hw⟩
  · cases w with
    | nil => exact (hproper (List.append_nil u).symm).elim
    | cons d w =>
      rintro _ ⟨⟩
      exact (hk'.isSecretChar (List.mem_append_right u List.mem_cons_self)).2
  · cases w with
    | nil => exact (hproper (List.append_nil k')).elim
    | cons d w =>
      cases hw
      have := (hk.isSecretChar (List.mem_append_right x (List.mem_append_right k' List.mem_cons_self))).2
      rw [hc] at this
      cases this

/-- What is read at the beginning of a list is the same when a marker with a separator follows, unless a value is
unfinished there. -/
theorem secret?_append (hne : x ≠ []) (hx : ¬ Unfinished x) (hrest : Announces rest) :
    secret? (x ++ rest) = secret? x := by
  by_cases hmarker : ∃ k, IsMarker k ∧ k <+: x ++ rest
  · obtain ⟨k, hk, hpre⟩ := hmarker
    by_cases hwithin : k <+: x
    · obtain ⟨t, rfl⟩ := hwithin
      rw [List.append_assoc, secret?_append_of_isMarker hk, secret?_append_of_isMarker hk,
        assignment?_append hk hx hrest]
    · obtain ⟨t, heq⟩ := hpre
      have hover : x <+: k := (List.prefix_or_prefix_of_prefix (heq ▸ List.prefix_append k t)
        (List.prefix_append x rest)).resolve_left hwithin
      have hnone : secret? x = none := secret?_eq_none fun k' hk' hle =>
        hwithin (hk'.eq_of_prefix hk (hle.trans hover) ▸ hle)
      rw [hnone, ← heq, secret?_append_of_isMarker hk, assignment?_of_head?_not_isSeparator, Option.map_none]
      exact hrest.not_isSeparator_of_overlap hne hk hover heq
  · rw [secret?_eq_none fun k hk hle => hmarker ⟨k, hk, hle⟩,
      secret?_eq_none fun k hk hle => hmarker ⟨k, hk, hle.trans (List.prefix_append x rest)⟩]

end

end FieldRules.Redaction
