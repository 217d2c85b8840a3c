/-
The texts of a value spell the value. Every reader is followed over what a writer puts out, from the escapes of a
text (`textFrom_escapeChar`) to the items and members in brackets, with whatever stands behind left to be read.
The compact and the indented text differ in the blanks between the parts alone (`LaysOut`), and the main statement
is about any such text (`LaysOut.exists_spelled`): it spells the value as soon as the reader goes deeper than the
value nests.
-/
import FieldRules.Proofs.Json.Numeral
import FieldRules.Proofs.Json.Spelling

namespace FieldRules.Json

/-! ## Depth -/

mutual

/-- How many lists and objects stand within each other. -/
def depth : Json → Nat
  | list items => itemsDepth items + 1
  | object members => membersDepth members + 1
  | _ => 0

def itemsDepth : List Json → Nat
  | [] => 0
  | v :: rest => max (depth v) (itemsDepth rest)

def membersDepth : List (String × Json) → Nat
  | [] => 0
  | (_, v) :: rest => max (depth v) (membersDepth rest)

end

theorem itemsDepth_le_iff {items : List Json} {n : Nat} : itemsDepth items ≤ n ↔ ∀ v ∈ items, v.depth ≤ n := by
  induction items with
  | nil => exact iff_of_true (Nat.zero_le n) (List.forall_mem_nil _)
  | cons v rest ih => rw [itemsDepth, max_le_iff, ih, List.forall_mem_cons]

theorem membersDepth_le_iff {members : List (String × Json)} {n : Nat} :
    membersDepth members ≤ n ↔ ∀ e ∈ members, e.2.depth ≤ n := by
  induction members with
  | nil => exact iff_of_true (Nat.zero_le n) (List.forall_mem_nil _)
  | cons e rest ih => rw [membersDepth, max_le_iff, ih, List.forall_mem_cons]

theorem depth_list_le_iff {items : List Json} {n : Nat} : (list items).depth ≤ n + 1 ↔ ∀ v ∈ items, v.depth ≤ n := by
  rw [depth, Nat.succ_le_succ_iff, itemsDepth_le_iff]

theorem depth_object_le_iff {members : List (String × Json)} {n : Nat} :
    (object members).depth ≤ n + 1 ↔ ∀ e ∈ members, e.2.depth ≤ n := by
  rw [depth, Nat.succ_le_succ_iff, membersDepth_le_iff]

/-- A value without parts repeats no key. -/
theorem distinct_of_depth_eq_zero {v : Json} (h : v.depth = 0) : v.Distinct := by
  intro path members hpath
  cases path with
  | nil =>
    cases hpath
    exact (Nat.succ_ne_zero _ h).elim
  | cons step path =>
    cases v with
    | list items => exact (Nat.succ_ne_zero _ h).elim
    | object members' => exact (Nat.succ_ne_zero _ h).elim
    | _ => cases step <;> cases hpath

namespace Cursor

variable {rest : List Char} {p : Place}

/-! ## Texts -/

/-- An escape of one letter is read as what it stands for. -/
theorem textFrom_shortEscape {c d : Char} (hc : c ≠ 'u') (hd : shortEscape? c = some d) (fuel : Nat) (seen : List Char) :
    textFrom (fuel + 1) seen ⟨'\\' :: c :: rest, p⟩ = textFrom fuel (d :: seen) ⟨rest, p.skipAll ['\\', c]⟩ := by
  have hescape : ∀ q, (⟨c :: rest, q⟩ : Cursor).escape = .ok (d, ⟨rest, q.skipAll [c]⟩) := by
    intro q
    simp only [escape, if_neg hc, hd, drop_one]
  simp only [textFrom, drop_one, hescape]
  rfl

theorem fourDigits?_control : ∀ n < 32,
    fourDigits? ['0', '0', Nat.digitChar (n / 16), Nat.digitChar (n % 16)] = some n := by
  decide

theorem unicodeEscape_control {n : Nat} (hn : n < 32) :
    (⟨'0' :: '0' :: Nat.digitChar (n / 16) :: Nat.digitChar (n % 16) :: rest, p⟩ : Cursor).unicodeEscape =
      .ok (Char.ofNat n, ⟨rest, p.skipAll ['0', '0', Nat.digitChar (n / 16), Nat.digitChar (n % 16)]⟩) := by
  have hhex : (⟨'0' :: '0' :: Nat.digitChar (n / 16) :: Nat.digitChar (n % 16) :: rest, p⟩ : Cursor).hexEscape =
      .ok (n, ⟨rest, p.skipAll ['0', '0', Nat.digitChar (n / 16), Nat.digitChar (n % 16)]⟩) := by
    unfold hexEscape
    simp only [List.take_succ_cons, List.take_zero, fourDigits?_control n hn]
    rfl
  -- a control character is below the surrogates
  simp only [unicodeEscape, hhex, bind, Except.bind]
  rw [if_neg (by omega), if_pos (by omega)]

theorem textFrom_controlEscape {c : Char} (hc : c.toNat < 32) (fuel : Nat) (seen : List Char) :
    textFrom (fuel + 1) seen ⟨controlEscape c.toNat ++ rest, p⟩ =
      textFrom fuel (c :: seen) ⟨rest, p.skipAll (controlEscape c.toNat)⟩ := by
  have hescape : ∀ q, (⟨'u' :: '0' :: '0' :: Nat.digitChar (c.toNat / 16) :: Nat.digitChar (c.toNat % 16) :: rest, q⟩ :
      Cursor).escape = .ok (c, ⟨rest, (q.skipAll ['u']).skipAll
        ['0', '0', Nat.digitChar (c.toNat / 16), Nat.digitChar (c.toNat % 16)]⟩) := by
    intro q
    simp only [escape, if_true, drop_one, unicodeEscape_control hc, Char.ofNat_toNat]
  simp only [controlEscape, List.cons_append, List.nil_append, textFrom, drop_one, hescape]
  rfl

/-- A character is read back from the way it is written between the quotes. -/
theorem textFrom_escapeChar (c : Char) (fuel : Nat) (seen : List Char) :
    textFrom (fuel + 1) seen ⟨escapeChar c ++ rest, p⟩ =
      textFrom fuel (c :: seen) ⟨rest, p.skipAll (escapeChar c)⟩ := by
  unfold escapeChar
  split_ifs with hquote hbackslash hb hf hn hr ht hcontrol
  · subst hquote
    exact textFrom_shortEscape (by decide) rfl fuel seen
  · subst hbackslash
    exact textFrom_shortEscape (by decide) rfl fuel seen
  · subst hb
    exact textFrom_shortEscape (by decide) rfl fuel seen
  · subst hf
    exact textFrom_shortEscape (by decide) rfl fuel seen
  · subst hn
    exact textFrom_shortEscape (by decide) rfl fuel seen
  · subst hr
    exact textFrom_shortEscape (by decide) rfl fuel seen
  · subst ht
    exact textFrom_shortEscape (by decide) rfl fuel seen
  · exact textFrom_controlEscape hcontrol fuel seen
  · simp only [List.singleton_append, textFrom, if_neg hquote, if_neg hbackslash, if_neg hcontrol, drop_one]

/-- The characters of a text are read one by one up to the closing quote. -/
theorem textFrom_append (cs : List Char) {fuel : Nat} (hfuel : cs.length < fuel) (seen : List Char) :
    textFrom fuel seen ⟨cs.flatMap escapeChar ++ '"' :: rest, p⟩ =
      .ok (String.ofList (seen.reverse ++ cs), ⟨rest, p.skipAll (cs.flatMap escapeChar ++ ['"'])⟩) := by
  induction cs generalizing fuel seen p with
  | nil =>
    obtain ⟨fuel, rfl⟩ : ∃ k, fuel = k + 1 := ⟨fuel - 1, by omega⟩
    simp only [List.flatMap_nil, List.nil_append, List.append_nil, textFrom, if_true, drop_one]
  | cons c cs ih =>
    obtain ⟨fuel, rfl⟩ : ∃ k, fuel = k + 1 := ⟨fuel - 1, by omega⟩
    rw [List.length_cons] at hfuel
    rw [List.flatMap_cons, List.append_assoc, List.append_assoc, textFrom_escapeChar, ih (by omega),
      Place.skipAll_append p (escapeChar c), List.reverse_cons, List.append_assoc]
    rfl

theorem length_le_flatMap_escapeChar (cs : List Char) : cs.length ≤ (cs.flatMap escapeChar).length := by
  have hpos : ∀ c, 1 ≤ (escapeChar c).length := by
    intro c
    unfold escapeChar controlEscape
    split_ifs <;> exact Nat.succ_le_succ (Nat.zero_le _)
  induction cs with
  | nil => exact Nat.le_refl 0
  | cons c cs ih =>
    have := hpos c
    rw [List.flatMap_cons, List.length_append, List.length_cons]
    omega

/-- A text is read behind its opening quote. -/
theorem text_append (s : String) :
    (⟨s.toList.flatMap escapeChar ++ '"' :: rest, p⟩ : Cursor).text =
      .ok (s, ⟨rest, p.skipAll (s.toList.flatMap escapeChar ++ ['"'])⟩) := by
  have hlength := length_le_flatMap_escapeChar s.toList
  have hfuel : s.toList.length < (s.toList.flatMap escapeChar ++ '"' :: rest).length + 1 := by
    rw [List.length_append]
    omega
  rw [text, textFrom_append s.toList hfuel, List.reverse_nil, List.nil_append, String.ofList_toList]

theorem textChars_append (s : String) (rest : List Char) :
    textChars s ++ rest = '"' :: (s.toList.flatMap escapeChar ++ '"' :: rest) := by
  simp [textChars]

theorem skipAll_textChars (s : String) (p : Place) :
    p.skipAll (textChars s) = (p.skipAll ['"']).skipAll (s.toList.flatMap escapeChar ++ ['"']) :=
  Place.skipAll_append p ['"'] _

/-! ## Values without parts -/

theorem word_append (ws : List Char) : word ws ⟨ws ++ rest, p⟩ = .ok ⟨rest, p.skipAll ws⟩ := by
  induction ws generalizing p with
  | nil => rfl
  | cons w ws ih =>
    simp only [word, List.cons_append, if_true, drop_one, ih]
    rfl

/-- A word is read whose first letter says which one it is. -/
theorem scalar?_word {c : Char} {ws : List Char} {v : Json}
    (h : ∀ s : Cursor, s.rest.head? = some c → s.scalar? = some ((word ws (s.drop 1)).map fun s => (v, s))) :
    (⟨c :: ws ++ rest, p⟩ : Cursor).scalar? = some (.ok (v, ⟨rest, p.skipAll (c :: ws)⟩)) := by
  rw [h _ rfl, List.cons_append, drop_one, word_append]
  rfl

theorem scalar?_null : (⟨['n', 'u', 'l', 'l'] ++ rest, p⟩ : Cursor).scalar? =
    some (.ok (.null, ⟨rest, p.skipAll ['n', 'u', 'l', 'l']⟩)) := by
  refine scalar?_word fun s hs => ?_
  obtain ⟨tail, htail⟩ := List.head?_eq_some_iff.1 hs
  simp only [scalar?, htail, if_true]

theorem scalar?_bool (b : Bool) : (⟨boolChars b ++ rest, p⟩ : Cursor).scalar? =
    some (.ok (.bool b, ⟨rest, p.skipAll (boolChars b)⟩)) := by
  cases b with
  | true =>
    refine scalar?_word fun s hs => ?_
    obtain ⟨tail, htail⟩ := List.head?_eq_some_iff.1 hs
    simp only [scalar?, htail]
    rfl
  | false =>
    refine scalar?_word fun s hs => ?_
    obtain ⟨tail, htail⟩ := List.head?_eq_some_iff.1 hs
    simp only [scalar?, htail]
    rfl

theorem scalar?_text (s : String) : (⟨textChars s ++ rest, p⟩ : Cursor).scalar? =
    some (.ok (.text s, ⟨rest, p.skipAll (textChars s)⟩)) := by
  rw [textChars_append, skipAll_textChars]
  simp only [scalar?, drop_one, text_append]
  rfl

/-! ## Blanks between parts -/

/-- The reader reads the text as the value, whatever may follow a value. -/
def Reads (read : Cursor → Except Fault (Json × Cursor)) (v : Json) (text : List Char) : Prop :=
  ∀ rest p, Ends rest → read ⟨text ++ rest, p⟩ = .ok (v, ⟨rest, p.skipAll text⟩)

def Blanks (gap : List Char) : Prop :=
  ∀ c ∈ gap, isBlank c = true

/-- The text begins with neither a blank nor a closing bracket. -/
def Opens (text : List Char) : Prop :=
  ∃ c cs, text = c :: cs ∧ isBlank c = false ∧ c ≠ ']'

theorem blanks_nil : Blanks [] := by
  intro c hc
  cases hc

theorem skipBlanks_append {gap : List Char} (hgap : Blanks gap) (hrest : Stops isBlank rest) :
    (⟨gap ++ rest, p⟩ : Cursor).skipBlanks = ⟨rest, p.skipAll gap⟩ := by
  simp only [skipBlanks, takeWhile_append hgap hrest, drop_append]

theorem skipBlanks_cons {c : Char} (h : isBlank c = false) (rest : List Char) (p : Place) :
    (⟨c :: rest, p⟩ : Cursor).skipBlanks = ⟨c :: rest, p⟩ :=
  skipBlanks_append blanks_nil (.cons h rest)

theorem Opens.skipBlanks {text : List Char} (h : Opens text) (rest : List Char) (p : Place) :
    (⟨text ++ rest, p⟩ : Cursor).skipBlanks = ⟨text ++ rest, p⟩ := by
  obtain ⟨c, cs, rfl, hblank, -⟩ := h
  exact skipBlanks_cons hblank _ _

theorem stops_nil (q : Char → Bool) : Stops q [] := by
  intro c hc
  cases hc

theorem ends_blank {c : Char} (h : isBlank c = true) (rest : List Char) : Ends (c :: rest) := by
  simp only [isBlank, Bool.or_eq_true, decide_eq_true_iff] at h
  rcases h with ((rfl | rfl) | rfl) | rfl <;> exact ⟨.cons rfl _, .cons rfl _, .cons rfl _⟩

/-- What stands between the parts of a list or an object ends a number. -/
theorem ends_append {gap : List Char} {c : Char} (hgap : Blanks gap) (h : c = ',' ∨ c = ']' ∨ c = '\x7d')
    (rest : List Char) : Ends (gap ++ c :: rest) := by
  cases gap with
  | nil => rcases h with rfl | rfl | rfl <;> exact ⟨.cons rfl _, .cons rfl _, .cons rfl _⟩
  | cons d gap => exact ends_blank (hgap d List.mem_cons_self) _

/-- So does what stands behind the last part of a text. -/
theorem Blanks.ends {gap : List Char} (hgap : Blanks gap) : Ends gap := by
  cases gap with
  | nil => exact ⟨stops_nil _, stops_nil _, stops_nil _⟩
  | cons c gap => exact ends_blank (hgap c List.mem_cons_self) gap

theorem Blanks.finish {gap : List Char} (hgap : Blanks gap) (p : Place) : (⟨gap, p⟩ : Cursor).finish = .ok () := by
  have hskip := skipBlanks_append (p := p) hgap (stops_nil isBlank)
  rw [List.append_nil] at hskip
  simp only [Cursor.finish, hskip]
  rfl

/-- The text of a value without parts begins with a quote, a digit or a letter. -/
theorem opens_chars (v : Json) : Opens v.chars := by
  cases v with
  | null => exact ⟨'n', _, rfl, rfl, by decide⟩
  | bool b =>
    cases b with
    | true => exact ⟨'t', _, rfl, rfl, by decide⟩
    | false => exact ⟨'f', _, rfl, rfl, by decide⟩
  | number n =>
    obtain ⟨c, cs, hcs, hc⟩ := chars_number_eq_cons n
    refine ⟨c, cs, hcs, ?_⟩
    rcases hc with rfl | hc
    · exact ⟨rfl, by decide⟩
    · have hne : ∀ d, d.isDigit = false → c ≠ d := by
        rintro d hd rfl
        rw [hc] at hd
        cases hd
      refine ⟨?_, hne ']' rfl⟩
      simp [isBlank, hne ' ' rfl, hne '\n' rfl, hne '\t' rfl, hne '\r' rfl]
  | text s => exact ⟨'"', _, rfl, rfl, by decide⟩
  | list items => exact ⟨'[', _, rfl, rfl, by decide⟩
  | object members => exact ⟨'\x7b', _, rfl, rfl, by decide⟩

section Parts

variable {α : Type} (gap : List Char) (text : α → List Char)

/-- The parts behind the first one, each with a comma and the gap in front. -/
def tailChars (as : List α) : List Char :=
  as.flatMap fun a => ',' :: (gap ++ text a)

/-- The parts with commas between them and the gap in front of each. -/
def partsChars : List α → List Char
  | [] => []
  | a :: as => gap ++ text a ++ tailChars gap text as

variable {gap : List Char} {text : α → List Char}

theorem tailChars_cons (a : α) (as : List α) (rest : List Char) :
    tailChars gap text (a :: as) ++ rest = ',' :: (gap ++ (text a ++ (tailChars gap text as ++ rest))) := by
  simp [tailChars]

theorem partsChars_cons (a : α) (as : List α) (rest : List Char) :
    partsChars gap text (a :: as) ++ rest = gap ++ (text a ++ (tailChars gap text as ++ rest)) := by
  simp [partsChars]

theorem skipAll_tailChars (a : α) (as : List α) (rest : List Char) (p : Place) :
    p.skipAll (tailChars gap text (a :: as) ++ rest) =
      (((p.skipAll [',']).skipAll gap).skipAll (text a)).skipAll (tailChars gap text as ++ rest) := by
  rw [tailChars_cons, ← Place.skipAll_append, ← Place.skipAll_append, ← Place.skipAll_append]
  rfl

theorem skipAll_partsChars (a : α) (as : List α) (rest : List Char) (p : Place) :
    p.skipAll (partsChars gap text (a :: as) ++ rest) =
      ((p.skipAll gap).skipAll (text a)).skipAll (tailChars gap text as ++ rest) := by
  rw [partsChars_cons, ← Place.skipAll_append, ← Place.skipAll_append]

theorem length_le_tailChars (gap : List Char) (text : α → List Char) (as : List α) :
    as.length ≤ (tailChars gap text as).length := by
  induction as with
  | nil => exact Nat.le_refl 0
  | cons a as ih =>
    have hlength : (tailChars gap text (a :: as)).length =
        (',' :: (gap ++ text a)).length + (tailChars gap text as).length := by
      rw [← List.length_append]
      rfl
    rw [hlength, List.length_cons, List.length_cons]
    omega

theorem length_le_partsChars (gap : List Char) (text : α → List Char) (as : List α) :
    as.length ≤ (partsChars gap text as).length + 1 := by
  cases as with
  | nil => exact Nat.zero_le _
  | cons a as =>
    have htail := length_le_tailChars gap text as
    simp only [partsChars, List.length_append, List.length_cons]
    omega

theorem ends_tailChars {close : List Char} {c : Char} (hclose : Blanks close) (hc : c = ']' ∨ c = '\x7d')
    (as : List α) : Ends (tailChars gap text as ++ (close ++ c :: rest)) := by
  cases as with
  | nil => exact ends_append hclose (Or.inr hc) _
  | cons a as =>
    rw [tailChars_cons]
    exact ends_append blanks_nil (Or.inl rfl) _

end Parts

/-! ## Items -/

variable {gap close : List Char}

theorem nextItem_close (hclose : Blanks close) (first : Bool) :
    (⟨close ++ ']' :: rest, p⟩ : Cursor).nextItem first = .ok (none, ⟨']' :: rest, p.skipAll close⟩) := by
  simp only [nextItem, skipBlanks_append hclose (.cons (c := ']') rfl _), if_true]

theorem nextItem_first {text : List Char} (hgap : Blanks gap) (h : Opens text) :
    (⟨gap ++ (text ++ rest), p⟩ : Cursor).nextItem true =
      .ok (some ⟨text ++ rest, p.skipAll gap⟩, ⟨text ++ rest, p.skipAll gap⟩) := by
  obtain ⟨c, cs, rfl, hblank, hclose⟩ := h
  rw [List.cons_append]
  simp only [nextItem, skipBlanks_append hgap (.cons hblank _), if_neg hclose, if_true]

theorem nextItem_comma {text : List Char} (hgap : Blanks gap) (h : Opens text) :
    (⟨',' :: (gap ++ (text ++ rest)), p⟩ : Cursor).nextItem false =
      .ok (some ⟨text ++ rest, (p.skipAll [',']).skipAll gap⟩, ⟨text ++ rest, (p.skipAll [',']).skipAll gap⟩) := by
  obtain ⟨c, cs, rfl, hblank, hclose⟩ := h
  rw [List.cons_append]
  simp only [nextItem, skipBlanks_cons (c := ',') rfl, drop_one, skipBlanks_append hgap (.cons hblank _),
    if_neg hclose]
  rfl

section Items

variable {item : Cursor → Except Fault (Json × Cursor)} {text : Json → List Char} {vs : List Json}

theorem items_tail (hgap : Blanks gap) (hclose : Blanks close) (h : ∀ v ∈ vs, Opens (text v) ∧ Reads item v (text v))
    {fuel : Nat} (hfuel : vs.length < fuel) :
    items item fuel false ⟨tailChars gap text vs ++ (close ++ ']' :: rest), p⟩ =
      .ok (vs, ⟨']' :: rest, p.skipAll (tailChars gap text vs ++ close)⟩) := by
  induction vs generalizing fuel p with
  | nil =>
    obtain ⟨fuel, rfl⟩ : ∃ k, fuel = k + 1 := ⟨fuel - 1, by omega⟩
    exact items_succ_eq_ok_iff.2 (Or.inl ⟨nextItem_close hclose false, rfl⟩)
  | cons v vs ih =>
    obtain ⟨fuel, rfl⟩ : ∃ k, fuel = k + 1 := ⟨fuel - 1, by omega⟩
    rw [List.length_cons] at hfuel
    rw [List.forall_mem_cons] at h
    obtain ⟨⟨hopens, hread⟩, h⟩ := h
    rw [tailChars_cons, skipAll_tailChars]
    exact items_succ_eq_ok_iff.2 (Or.inr ⟨_, _, v, _, vs, nextItem_comma hgap hopens,
      hread _ _ (ends_tailChars hclose (Or.inl rfl) vs), ih h (by omega), rfl⟩)

theorem items_append (hgap : Blanks gap) (hclose : Blanks close) (h : ∀ v ∈ vs, Opens (text v) ∧ Reads item v (text v))
    {fuel : Nat} (hfuel : vs.length < fuel) :
    items item fuel true ⟨partsChars gap text vs ++ (close ++ ']' :: rest), p⟩ =
      .ok (vs, ⟨']' :: rest, p.skipAll (partsChars gap text vs ++ close)⟩) := by
  obtain ⟨fuel, rfl⟩ : ∃ k, fuel = k + 1 := ⟨fuel - 1, by omega⟩
  cases vs with
  | nil => exact items_succ_eq_ok_iff.2 (Or.inl ⟨nextItem_close hclose true, rfl⟩)
  | cons v vs =>
    rw [List.length_cons] at hfuel
    rw [List.forall_mem_cons] at h
    obtain ⟨⟨hopens, hread⟩, h⟩ := h
    rw [partsChars_cons, skipAll_partsChars]
    exact items_succ_eq_ok_iff.2 (Or.inr ⟨_, _, v, _, vs, nextItem_first hgap hopens,
      hread _ _ (ends_tailChars hclose (Or.inl rfl) vs), items_tail hgap hclose h (by omega), rfl⟩)

/-- A list with its brackets. -/
def listChars (gap close : List Char) (text : Json → List Char) (vs : List Json) : List Char :=
  '[' :: (partsChars gap text vs ++ (close ++ [']']))

/-- A list is read whose items are read. -/
theorem listOf_append (hgap : Blanks gap) (hclose : Blanks close)
    (h : ∀ v ∈ vs, Opens (text v) ∧ Reads item v (text v)) :
    listOf item ⟨listChars gap close text vs ++ rest, p⟩ =
      .ok (vs, ⟨rest, p.skipAll (listChars gap close text vs)⟩) := by
  have htext : listChars gap close text vs ++ rest = '[' :: (partsChars gap text vs ++ (close ++ ']' :: rest)) := by
    simp [listChars]
  have hplace : p.skipAll (listChars gap close text vs) =
      ((p.skipAll ['[']).skipAll (partsChars gap text vs ++ close)).skipAll [']'] := by
    rw [← Place.skipAll_append, ← Place.skipAll_append]
    simp [listChars]
  have hfuel : vs.length < ('[' :: (partsChars gap text vs ++ (close ++ ']' :: rest))).length := by
    have := length_le_partsChars gap text vs
    simp only [List.length_cons, List.length_append]
    omega
  have hend : ∀ q, (⟨']' :: rest, q⟩ : Cursor).closeList = .ok ⟨rest, q.skipAll [']']⟩ := by
    intro q
    simp only [closeList, skipBlanks_cons (c := ']') rfl, if_true, drop_one]
  rw [htext, hplace]
  simp only [listOf, drop_one, items_append hgap hclose h hfuel, bind, Except.bind, hend]

end Items

/-! ## Members -/

/-- A key and its content. -/
def pairChars (text : Json → List Char) (e : String × Json) : List Char :=
  textChars e.1 ++ ':' :: text e.2

theorem nextKey_close (hclose : Blanks close) (first : Bool) :
    (⟨close ++ '\x7d' :: rest, p⟩ : Cursor).nextKey first = .ok (none, ⟨'\x7d' :: rest, p.skipAll close⟩) := by
  simp only [nextKey, skipBlanks_append hclose (.cons (c := '\x7d') rfl _), if_true]

theorem nextKey_first (hgap : Blanks gap) : (⟨gap ++ '"' :: rest, p⟩ : Cursor).nextKey true =
    .ok (some ⟨rest, (p.skipAll gap).skipAll ['"']⟩, ⟨'"' :: rest, p.skipAll gap⟩) := by
  simp only [nextKey, skipBlanks_append hgap (.cons (c := '"') rfl _), drop_one]
  rfl

theorem nextKey_comma (hgap : Blanks gap) (rest : List Char) (p : Place) :
    (⟨',' :: (gap ++ '"' :: rest), p⟩ : Cursor).nextKey false =
      .ok (some ⟨rest, ((p.skipAll [',']).skipAll gap).skipAll ['"']⟩, ⟨'"' :: rest, (p.skipAll [',']).skipAll gap⟩) := by
  simp only [nextKey, skipBlanks_cons (c := ',') rfl, drop_one, skipBlanks_append hgap (.cons (c := '"') rfl _)]
  rfl

theorem colon_append : (⟨':' :: rest, p⟩ : Cursor).colon = .ok ⟨rest, p.skipAll [':']⟩ := by
  simp only [colon, skipBlanks_cons (c := ':') rfl, if_true, drop_one]

section Members

variable {content : Cursor → Except Fault (Json × Cursor)} {text : Json → List Char} {ms : List (String × Json)}

theorem pairChars_append (e : String × Json) (rest : List Char) : pairChars text e ++ rest =
    '"' :: (e.1.toList.flatMap escapeChar ++ '"' :: ':' :: (text e.2 ++ rest)) := by
  rw [pairChars, List.append_assoc, textChars_append]
  rfl

/-- One member, from the place where its key begins. -/
theorem members_step {e : String × Json} (h : Reads content e.2 (text e.2)) (hends : Ends rest) {fuel : Nat}
    {seen : List String} {s s₀ s' : Cursor} {q : Place}
    (hnext : s.nextKey seen.isEmpty =
      .ok (some ⟨e.1.toList.flatMap escapeChar ++ '"' :: ':' :: (text e.2 ++ rest), q.skipAll ['"']⟩, s₀))
    (hrest : members (fun _ _ s => do content (← s.colon)) fuel (e.1 :: seen)
      ⟨rest, q.skipAll (pairChars text e)⟩ = .ok (ms, s')) :
    members (fun _ _ s => do content (← s.colon)) (fuel + 1) seen s = .ok (e :: ms, s') := by
  refine members_succ_eq_ok_iff.2 (Or.inr ⟨_, _, e.1, _, _, e.2, _, ms, hnext, text_append e.1, colon_append,
    h rest _ hends, ?_, rfl⟩)
  rw [pairChars, Place.skipAll_append, skipAll_textChars] at hrest
  exact hrest

theorem members_tail (hgap : Blanks gap) (hclose : Blanks close) (h : ∀ e ∈ ms, Reads content e.2 (text e.2))
    {fuel : Nat} (hfuel : ms.length < fuel) {seen : List String} (hseen : seen ≠ []) :
    members (fun _ _ s => do content (← s.colon)) fuel seen
        ⟨tailChars gap (pairChars text) ms ++ (close ++ '\x7d' :: rest), p⟩ =
      .ok (ms, ⟨'\x7d' :: rest, p.skipAll (tailChars gap (pairChars text) ms ++ close)⟩) := by
  have hempty : seen.isEmpty = false := by
    cases seen with
    | nil => exact (hseen rfl).elim
    | cons key seen => rfl
  induction ms generalizing fuel p seen with
  | nil =>
    obtain ⟨fuel, rfl⟩ : ∃ k, fuel = k + 1 := ⟨fuel - 1, by omega⟩
    exact members_succ_eq_ok_iff.2 (Or.inl ⟨nextKey_close hclose _, rfl⟩)
  | cons e ms ih =>
    obtain ⟨fuel, rfl⟩ : ∃ k, fuel = k + 1 := ⟨fuel - 1, by omega⟩
    rw [List.length_cons] at hfuel
    rw [List.forall_mem_cons] at h
    rw [tailChars_cons, skipAll_tailChars, pairChars_append]
    have hnext := nextKey_comma hgap (e.1.toList.flatMap escapeChar ++ '"' :: ':' :: (text e.2 ++
      (tailChars gap (pairChars text) ms ++ (close ++ '\x7d' :: rest)))) p
    rw [← hempty] at hnext
    exact members_step h.1 (ends_tailChars hclose (Or.inr rfl) ms) hnext
      (ih h.2 (by omega) (List.cons_ne_nil e.1 seen) rfl)

theorem members_append (hgap : Blanks gap) (hclose : Blanks close) (h : ∀ e ∈ ms, Reads content e.2 (text e.2))
    {fuel : Nat} (hfuel : ms.length < fuel) (rest : List Char) (p : Place) :
    members (fun _ _ s => do content (← s.colon)) fuel []
        ⟨partsChars gap (pairChars text) ms ++ (close ++ '\x7d' :: rest), p⟩ =
      .ok (ms, ⟨'\x7d' :: rest, p.skipAll (partsChars gap (pairChars text) ms ++ close)⟩) := by
  obtain ⟨fuel, rfl⟩ : ∃ k, fuel = k + 1 := ⟨fuel - 1, by omega⟩
  cases ms with
  | nil => exact members_succ_eq_ok_iff.2 (Or.inl ⟨nextKey_close hclose _, rfl⟩)
  | cons e ms =>
    rw [List.length_cons] at hfuel
    rw [List.forall_mem_cons] at h
    rw [partsChars_cons, skipAll_partsChars, pairChars_append]
    exact members_step (q := p.skipAll gap) h.1 (ends_tailChars hclose (Or.inr rfl) ms) (nextKey_first hgap)
      (members_tail hgap hclose h.2 (by omega) (List.cons_ne_nil e.1 []))

/-- An object with its braces. -/
def objectChars (gap close : List Char) (text : Json → List Char) (ms : List (String × Json)) : List Char :=
  '\x7b' :: (partsChars gap (pairChars text) ms ++ (close ++ ['\x7d']))

/-- An object is read whose contents are read. -/
theorem membersOf_append (hgap : Blanks gap) (hclose : Blanks close)
    (h : ∀ e ∈ ms, Reads content e.2 (text e.2)) :
    membersOf content ⟨objectChars gap close text ms ++ rest, p⟩ =
      .ok (ms, ⟨rest, p.skipAll (objectChars gap close text ms)⟩) := by
  have htext : objectChars gap close text ms ++ rest =
      '\x7b' :: (partsChars gap (pairChars text) ms ++ (close ++ '\x7d' :: rest)) := by
    simp [objectChars]
  have hplace : p.skipAll (objectChars gap close text ms) =
      ((p.skipAll ['\x7b']).skipAll (partsChars gap (pairChars text) ms ++ close)).skipAll ['\x7d'] := by
    rw [← Place.skipAll_append, ← Place.skipAll_append]
    simp [objectChars]
  have hfuel : ms.length < ('\x7b' :: (partsChars gap (pairChars text) ms ++ (close ++ '\x7d' :: rest))).length := by
    have := length_le_partsChars gap (pairChars text) ms
    simp only [List.length_cons, List.length_append]
    omega
  have hend : ∀ q, (⟨'\x7d' :: rest, q⟩ : Cursor).closeObject = .ok ⟨rest, q.skipAll ['\x7d']⟩ := by
    intro q
    simp only [closeObject, skipBlanks_cons (c := '\x7d') rfl, if_true, drop_one]
  have hmembers := members_append hgap hclose h hfuel rest (p.skipAll ['\x7b'])
  simp only [bind, Except.bind] at hmembers
  rw [htext, hplace]
  simp only [membersOf, drop_one, bind, Except.bind, hmembers, hend]

end Members

/-! ## Values -/

/-- A way to write values on levels: all of them have the compact form, but for blanks in front of the parts,
behind the last part and behind the colons. -/
structure LaysOut (text : Nat → Json → List Char) : Prop where
  plain : ∀ level v, v.depth = 0 → text level v = v.chars
  list : ∀ level vs, ∃ gap close, Blanks gap ∧ Blanks close ∧
    text level (.list vs) = listChars gap close (text (level + 1)) vs
  object : ∀ level ms, ∃ gap close space, Blanks gap ∧ Blanks close ∧ Blanks space ∧
    text level (.object ms) = objectChars gap close (fun v => space ++ text (level + 1) v) ms

variable {text : Nat → Json → List Char}

theorem LaysOut.opens (h : LaysOut text) (level : Nat) (v : Json) : Opens (text level v) := by
  have hplain : v.depth = 0 → Opens (text level v) := fun hv => h.plain level v hv ▸ opens_chars v
  cases v with
  | list vs =>
    obtain ⟨gap, close, -, -, htext⟩ := h.list level vs
    exact ⟨'[', _, htext, rfl, by decide⟩
  | object ms =>
    obtain ⟨gap, close, space, -, -, -, htext⟩ := h.object level ms
    exact ⟨'\x7b', _, htext, rfl, by decide⟩
  | _ => exact hplain rfl

/-- Blanks in front of a value are passed over with it. -/
theorem Reads.blanks {v : Json} {chars space : List Char} {d : Nat} (h : Reads (spelled (d + 1)) v chars)
    (hopens : Opens chars) (hspace : Blanks space) : Reads (spelled (d + 1)) v (space ++ chars) := by
  intro rest p hends
  have hread := h rest (p.skipAll space) hends
  have hstops : Stops isBlank (chars ++ rest) := by
    obtain ⟨c, cs, rfl, hblank, -⟩ := hopens
    exact .cons hblank _
  rw [spelled, valueWith, hopens.skipBlanks] at hread
  rw [spelled, valueWith, List.append_assoc, skipBlanks_append hspace hstops, Place.skipAll_append]
  exact hread

theorem reads_of_scalar? {v : Json} (h : ∀ rest p, Ends rest → (⟨v.chars ++ rest, p⟩ : Cursor).scalar? =
    some (.ok (v, ⟨rest, p.skipAll v.chars⟩))) (d : Nat) : Reads (spelled (d + 1)) v v.chars := by
  intro rest p hends
  refine valueWith_succ_eq_ok_iff.2 (Or.inl ?_)
  rw [(opens_chars v).skipBlanks, h rest p hends]

/-- A value is read from its text as soon as the reader goes deeper than the value nests. -/
theorem LaysOut.reads (h : LaysOut text) (level : Nat) (v : Json) (d : Nat) (hv : v.depth ≤ d) :
    Reads (spelled (d + 1)) v (text level v) := by
  induction v using parts_induction generalizing level d with
  | null =>
    rw [h.plain level _ rfl]
    exact reads_of_scalar? (fun _ _ _ => scalar?_null) d
  | bool b =>
    rw [h.plain level _ rfl]
    exact reads_of_scalar? (fun _ _ _ => scalar?_bool b) d
  | number n =>
    rw [h.plain level _ rfl]
    exact reads_of_scalar? (v := .number n) (fun _ p hends => scalar?_number n hends p) d
  | text s =>
    rw [h.plain level _ rfl]
    exact reads_of_scalar? (fun _ _ _ => scalar?_text s) d
  | list vs ih =>
    obtain ⟨d, rfl⟩ : ∃ k, d = k + 1 := ⟨d - 1, by rw [depth] at hv; omega⟩
    rw [depth_list_le_iff] at hv
    obtain ⟨gap, close, hgap, hclose, htext⟩ := h.list level vs
    intro rest p hends
    rw [spelled_eq_list_iff, (h.opens level (.list vs)).skipBlanks, htext]
    refine ⟨rfl, Nat.succ_ne_zero d, listOf_append hgap hclose fun v hmem => ⟨h.opens (level + 1) v, ?_⟩⟩
    exact ih v hmem (level + 1) d (hv v hmem)
  | object ms ih =>
    obtain ⟨d, rfl⟩ : ∃ k, d = k + 1 := ⟨d - 1, by rw [depth] at hv; omega⟩
    rw [depth_object_le_iff] at hv
    obtain ⟨gap, close, space, hgap, hclose, hspace, htext⟩ := h.object level ms
    intro rest p hends
    rw [spelled_eq_object_iff, (h.opens level (.object ms)).skipBlanks, htext]
    refine ⟨rfl, Nat.succ_ne_zero d, membersOf_append hgap hclose fun e he => ?_⟩
    exact (ih e he (level + 1) d (hv e he)).blanks (h.opens (level + 1) e.2) hspace

/-- The whole text of a value spells the value, also with blanks behind it. -/
theorem LaysOut.exists_spelled_append (h : LaysOut text) (level : Nat) {v : Json} {d : Nat} (hv : v.depth < d)
    {gap : List Char} (hgap : Blanks gap) :
    ∃ s', (start (String.ofList (text level v ++ gap))).spelled d = .ok (v, s') ∧ s'.finish = .ok () := by
  obtain ⟨d, rfl⟩ : ∃ k, d = k + 1 := ⟨d - 1, by omega⟩
  rw [start, String.toList_ofList]
  exact ⟨_, h.reads level v d (by omega) gap ⟨1, 0⟩ hgap.ends, hgap.finish _⟩

theorem LaysOut.exists_spelled (h : LaysOut text) (level : Nat) {v : Json} {d : Nat} (hv : v.depth < d) :
    ∃ s', (start (String.ofList (text level v))).spelled d = .ok (v, s') ∧ s'.finish = .ok () := by
  have hspelled := h.exists_spelled_append level hv blanks_nil
  rwa [List.append_nil] at hspelled

/-! ## The two forms -/

theorem itemChars_eq (vs : List Json) : itemChars vs = partsChars [] chars vs := by
  induction vs with
  | nil => rfl
  | cons v vs ih =>
    cases vs with
    | nil => exact (List.append_nil _).symm
    | cons w ws =>
      rw [itemChars, ih]
      · rfl
      · exact List.cons_ne_nil w ws

theorem memberChars_eq (ms : List (String × Json)) :
    Json.memberChars ms = partsChars [] (pairChars chars) ms := by
  induction ms with
  | nil => rfl
  | cons e ms ih =>
    obtain ⟨k, v⟩ := e
    cases ms with
    | nil => exact (List.append_nil _).symm
    | cons e' ms =>
      rw [Json.memberChars, ih]
      · rfl
      · exact List.cons_ne_nil e' ms

theorem laysOut_chars : LaysOut fun _ => chars where
  plain _ _ _ := rfl
  list _ vs := ⟨[], [], blanks_nil, blanks_nil, by rw [chars, itemChars_eq]; rfl⟩
  object _ ms := ⟨[], [], [], blanks_nil, blanks_nil, blanks_nil, by rw [chars, memberChars_eq]; rfl⟩

theorem blanks_lineBreak (level : Nat) : Blanks (lineBreak level) := by
  intro c hc
  rcases List.mem_cons.1 hc with rfl | hc
  · rfl
  · rw [List.eq_of_mem_replicate hc]
    rfl

theorem indentedItems_eq (level : Nat) (vs : List Json) :
    indentedItems level vs = partsChars (lineBreak level) (indentedChars level) vs := by
  induction vs with
  | nil => rfl
  | cons v vs ih =>
    cases vs with
    | nil => exact (List.append_nil _).symm
    | cons w ws =>
      rw [indentedItems, ih]
      · rfl
      · exact List.cons_ne_nil w ws

theorem indentedMembers_eq (level : Nat) (ms : List (String × Json)) :
    indentedMembers level ms = partsChars (lineBreak level) (pairChars fun v => [' '] ++ indentedChars level v) ms := by
  induction ms with
  | nil => rfl
  | cons e ms ih =>
    obtain ⟨k, v⟩ := e
    cases ms with
    | nil => simp [indentedMembers, partsChars, pairChars, tailChars]
    | cons e' ms =>
      rw [indentedMembers, ih]
      · simp [partsChars, pairChars, tailChars]
      · exact List.cons_ne_nil e' ms

theorem laysOut_indentedChars : LaysOut indentedChars where
  plain level v hv := by
    cases v with
    | list vs => exact (Nat.succ_ne_zero _ hv).elim
    | object ms => exact (Nat.succ_ne_zero _ hv).elim
    | _ => rfl
  list level vs := by
    cases vs with
    | nil => exact ⟨[], [], blanks_nil, blanks_nil, rfl⟩
    | cons v vs =>
      refine ⟨_, _, blanks_lineBreak (level + 1), blanks_lineBreak level, ?_⟩
      rw [indentedChars, indentedItems_eq, listChars]
      simp
  object level ms := by
    cases ms with
    | nil => exact ⟨[], [], [], blanks_nil, blanks_nil, blanks_nil, rfl⟩
    | cons e ms =>
      refine ⟨_, _, [' '], blanks_lineBreak (level + 1), blanks_lineBreak level, by simp [Blanks, isBlank], ?_⟩
      rw [indentedChars, indentedMembers_eq, objectChars]
      simp

end Cursor

/-- The value that a text holds, read so many levels deep. -/
def parseWithin (d : Nat) (s : String) : Except Fault Json := do
  let (v, s) ← (Cursor.start s).value d
  s.finish
  .ok v

theorem parseWithin_depthLimit : parseWithin depthLimit = parse :=
  rfl

/-- A text holds the value that it spells, if no object of the value repeats a key. -/
theorem parseWithin_of_spelled {s : String} {v : Json} {d : Nat} (hdistinct : v.Distinct)
    (h : ∃ s', (Cursor.start s).spelled d = .ok (v, s') ∧ s'.finish = .ok ()) : parseWithin d s = .ok v := by
  obtain ⟨s', hread, hfinish⟩ := h
  have hvalue := (Cursor.lifts_value d).2 ⟨v, hread, trivial, merged_eq_self hdistinct⟩
  exact bind_eq_ok_iff.2 ⟨_, hvalue, bind_eq_ok_iff.2 ⟨_, hfinish, rfl⟩⟩

/-- Either text of a value holds the value, also with blanks behind it. -/
theorem parseWithin_texts_append {v : Json} {d : Nat} (hdistinct : v.Distinct) (hd : v.depth < d) {gap : String}
    (hgap : Cursor.Blanks gap.toList) :
    parseWithin d (v.compact ++ gap) = .ok v ∧ parseWithin d (v.indented ++ gap) = .ok v := by
  have htext : ∀ cs : List Char, String.ofList cs ++ gap = String.ofList (cs ++ gap.toList) := by
    intro cs
    rw [String.ofList_append, String.ofList_toList]
  rw [compact, indented, htext, htext]
  exact ⟨parseWithin_of_spelled hdistinct (Cursor.laysOut_chars.exists_spelled_append 0 hd hgap),
    parseWithin_of_spelled hdistinct (Cursor.laysOut_indentedChars.exists_spelled_append 0 hd hgap)⟩

theorem parseWithin_texts {v : Json} {d : Nat} (hdistinct : v.Distinct) (hd : v.depth < d) :
    parseWithin d v.compact = .ok v ∧ parseWithin d v.indented = .ok v := by
  have htexts := @parseWithin_texts_append v d hdistinct hd "" Cursor.blanks_nil
  rwa [String.append_empty, String.append_empty] at htexts

/-- A value that nests at most 127 levels deep is spelled by its compact text. -/
theorem spelled_compact {v : Json} (h : v.depth ≤ 127) : spelled v.compact = .ok v :=
  spelled_eq_ok_iff.2 (Cursor.laysOut_chars.exists_spelled 0 (Nat.lt_succ_of_le h))

end FieldRules.Json
