/-
Marker words. A marker is one of nine words in any letter case. No marker is the beginning or the end of another
one, so at most one stands at a place, and that one is read there (`marker?_eq_some_iff`).
-/
import FieldRules.Redaction
import Mathlib.Data.List.Basic

namespace FieldRules.Redaction

/-! ## Letters -/

/-- A letter without its case; two letters have a third form. -/
def fold (c : Char) : Char :=
  if c = '\u212a' then 'k' else if c = '\u017f' then 's' else c.toLower

theorem toLower_eq_iff {p c : Char} (hp : p.isLower = true) : c.toLower = p ↔ c = p ∨ c = p.toUpper := by
  have hdown : ('a'.val - 'A'.val).toNat = 32 := rfl
  have hup : ('A'.val - 'a'.val).toNat = 4294967264 := rfl
  have ha : 'a'.val.toNat = 97 := rfl
  have hz : 'z'.val.toNat = 122 := rfl
  have hA : 'A'.val.toNat = 65 := rfl
  have hZ : 'Z'.val.toNat = 90 := rfl
  unfold Char.isLower at hp
  simp only [Bool.and_eq_true, decide_eq_true_eq] at hp
  unfold Char.toUpper Char.toLower
  rw [dif_pos hp]
  simp only [ge_iff_le, UInt32.le_iff_toNat_le] at hp ⊢
  split
  · simp only [Char.ext_iff, ← UInt32.toNat_inj, UInt32.toNat_add]
    omega
  · simp only [Char.ext_iff, ← UInt32.toNat_inj, UInt32.toNat_add]
    omega

theorem isLetter_iff {p c : Char} (hp : p.isLower = true) : isLetter p c = true ↔ fold c = p := by
  have hother : ∀ {c : Char}, c.toLower.isLower = false → ¬ (c = p ∨ c = p.toUpper) := by
    intro c hc h
    rw [(toLower_eq_iff hp).2 h, hp] at hc
    cases hc
  unfold isLetter fold
  simp only [Bool.or_eq_true, Bool.and_eq_true, decide_eq_true_eq]
  split_ifs with hk hs
  · subst hk
    have hnot : ¬ ('\u212a' = p ∨ '\u212a' = p.toUpper) := hother (by decide)
    constructor
    · rintro ((h | ⟨rfl, -⟩) | ⟨-, h⟩)
      · exact (hnot h).elim
      · rfl
      · exact absurd h (by decide)
    · rintro rfl
      exact Or.inl (Or.inr ⟨rfl, rfl⟩)
  · subst hs
    have hnot : ¬ ('\u017f' = p ∨ '\u017f' = p.toUpper) := hother (by decide)
    constructor
    · rintro ((h | ⟨-, h⟩) | ⟨rfl, -⟩)
      · exact (hnot h).elim
      · exact absurd h (by decide)
      · rfl
    · rintro rfl
      exact Or.inr ⟨rfl, rfl⟩
  · rw [toLower_eq_iff hp]
    tauto

/-- Hyphens and underscores have no case. -/
theorem fold_eq_iff {p c : Char} (hp : p = '-' ∨ p = '_') : fold c = p ↔ c = p := by
  have hp' : p.val.toNat = 45 ∨ p.val.toNat = 95 := by
    rcases hp with rfl | rfl
    · exact Or.inl rfl
    · exact Or.inr rfl
  have hdown : ('a'.val - 'A'.val).toNat = 32 := rfl
  have hA : 'A'.val.toNat = 65 := rfl
  have hZ : 'Z'.val.toNat = 90 := rfl
  unfold fold
  split_ifs with hk hs
  · subst hk
    rcases hp with rfl | rfl <;> decide
  · subst hs
    rcases hp with rfl | rfl <;> decide
  · unfold Char.toLower
    simp only [ge_iff_le, UInt32.le_iff_toNat_le]
    split
    · simp only [Char.ext_iff, ← UInt32.toNat_inj, UInt32.toNat_add]
      omega
    · rfl

/-! ## Markers -/

/-- The words that are written in one way only. -/
def plainMarkers : List (List Char) :=
  ["token", "bearer", "password", "passwd", "pwd", "secret"].map String.toList

/-- The words that announce a secret, letter by letter. -/
def markers : List (List Char) :=
  ["api_key", "api-key", "apikey"].map String.toList ++ plainMarkers

/-- A marker word in any letter case. -/
def IsMarker (k : List Char) : Prop :=
  k.map fold ∈ markers

instance : DecidablePred IsMarker := fun k =>
  inferInstanceAs (Decidable (k.map fold ∈ markers))

namespace IsMarker

variable {k k' : List Char}

theorem ne_nil (h : IsMarker k) : k ≠ [] := by
  rintro rfl
  exact absurd h (by decide)

theorem eq_of_prefix (h : IsMarker k) (h' : IsMarker k') (hle : k <+: k') : k = k' := by
  have hfree : ∀ m ∈ markers, ∀ m' ∈ markers, m <+: m' → m = m' := by decide
  have hsame := congrArg List.length (hfree _ h _ h' (hle.map fold))
  rw [List.length_map, List.length_map] at hsame
  exact hle.eq_of_length hsame

theorem eq_of_suffix (h : IsMarker k) (h' : IsMarker k') (hle : k <:+ k') : k = k' := by
  have hfree : ∀ m ∈ markers, ∀ m' ∈ markers, m <:+ m' → m = m' := by decide
  have hsame := congrArg List.length (hfree _ h _ h' (hle.map fold))
  rw [List.length_map, List.length_map] at hsame
  exact hle.eq_of_length hsame

theorem three_le_length (h : IsMarker k) : 3 ≤ k.length := by
  have hlong : ∀ m ∈ markers, 3 ≤ m.length := by decide
  have hlength := hlong _ h
  rwa [List.length_map] at hlength

theorem not_mem (h : IsMarker k) {c : Char} (hc : ∀ m ∈ markers, fold c ∉ m) : c ∉ k :=
  fun hmem => hc _ h (List.mem_map_of_mem hmem)

/-- The characters of a marker stand neither between a marker and a secret nor around a secret. -/
theorem isSecretChar (h : IsMarker k) {c : Char} (hc : c ∈ k) :
    isSecretChar c = true ∧ isSeparator c = false := by
  have hparts : ∀ m ∈ markers, m.all (fun p => p.isLower || p = '-' || p = '_') = true := by decide
  have hplain : ∀ m ∈ markers, m.all (fun p => (Redaction.isSecretChar p && !isSeparator p) &&
      (Redaction.isSecretChar p.toUpper && !isSeparator p.toUpper)) = true := by decide
  simp only [List.all_eq_true, Bool.or_eq_true, Bool.and_eq_true, Bool.not_eq_true', decide_eq_true_eq]
    at hparts hplain
  have hmem : fold c ∈ k.map fold := List.mem_map_of_mem hc
  rcases or_assoc.1 (hparts _ h _ hmem) with hlower | hmark
  · -- a letter is the small one, the capital one or one of the two that have a third form
    have hletter := (isLetter_iff hlower).2 rfl
    unfold isLetter at hletter
    simp only [Bool.or_eq_true, Bool.and_eq_true, decide_eq_true_eq] at hletter
    rcases hletter with ((hc | hc) | ⟨-, hc⟩) | ⟨-, hc⟩
    · rw [hc]; exact (hplain _ h _ hmem).1
    · rw [hc]; exact (hplain _ h _ hmem).2
    · rw [hc]; decide
    · rw [hc]; decide
  · rw [(fold_eq_iff hmark).1 rfl]
    exact (hplain _ h _ hmem).1

end IsMarker

/-! ## Reading a marker -/

section
variable {u w cs : List Char} {p c : Char} {n : Nat}

theorem ne_hyphen (hp : p.isLower = true) : p ≠ '-' := by
  rintro rfl
  exact absurd hp (by decide)

theorem wordSize?_nil (hp : p.isLower = true) : wordSize? (p :: w) [] = none := by
  rw [wordSize?]
  exact ne_hyphen hp

theorem wordSize?_cons (hp : p.isLower = true) : wordSize? (p :: w) (c :: cs) =
    if isLetter p c then (wordSize? w cs).map (· + 1) else none := by
  rw [wordSize?]
  exact ne_hyphen hp

theorem wordSize?_append (hu : ∀ p ∈ u, p.isLower = true) (w cs : List Char) : wordSize? (u ++ w) cs = some n ↔
    ∃ k rest m, cs = k ++ rest ∧ k.map fold = u ∧ wordSize? w rest = some m ∧ n = k.length + m := by
  induction u generalizing cs n with
  | nil =>
    constructor
    · exact fun h => ⟨[], cs, n, rfl, rfl, h, (Nat.zero_add n).symm⟩
    · rintro ⟨k, rest, m, rfl, hk, hm, rfl⟩
      rw [List.map_eq_nil_iff.1 hk, List.length_nil, Nat.zero_add]
      exact hm
  | cons p u ih =>
    obtain ⟨hp, hu⟩ := List.forall_mem_cons.1 hu
    cases cs with
    | nil =>
      rw [List.cons_append, wordSize?_nil hp]
      refine ⟨nofun, ?_⟩
      rintro ⟨k, rest, m, hnil, hk, -⟩
      rw [(List.append_eq_nil_iff.1 hnil.symm).1] at hk
      cases hk
    | cons c cs =>
      rw [List.cons_append, wordSize?_cons hp]
      by_cases hc : isLetter p c = true
      · rw [if_pos hc, Option.map_eq_some_iff]
        constructor
        · rintro ⟨n, hn, rfl⟩
          obtain ⟨k, rest, m, rfl, rfl, hm, rfl⟩ := (ih hu cs).1 hn
          exact ⟨c :: k, rest, m, rfl, by rw [List.map_cons, (isLetter_iff hp).1 hc], hm, by
            rw [List.length_cons]; omega⟩
        · rintro ⟨k, rest, m, heq, hk, hm, rfl⟩
          obtain ⟨c', k, rfl, -, rfl⟩ := List.map_eq_cons_iff.1 hk
          rw [List.cons_append, List.cons.injEq] at heq
          obtain ⟨rfl, rfl⟩ := heq
          exact ⟨k.length + m, (ih hu _).2 ⟨k, rest, m, rfl, rfl, hm, rfl⟩, by rw [List.length_cons]; omega⟩
      · rw [if_neg hc]
        refine ⟨nofun, ?_⟩
        rintro ⟨k, rest, m, heq, hk, -⟩
        obtain ⟨c', k, rfl, hc', rfl⟩ := List.map_eq_cons_iff.1 hk
        rw [List.cons_append, List.cons.injEq] at heq
        obtain ⟨rfl, rfl⟩ := heq
        exact (hc ((isLetter_iff hp).2 hc')).elim

theorem wordSize?_eq_some_iff (hu : ∀ p ∈ u, p.isLower = true) (cs : List Char) :
    wordSize? u cs = some n ↔ ∃ k rest, cs = k ++ rest ∧ k.map fold = u ∧ n = k.length := by
  have happend := wordSize?_append (n := n) hu [] cs
  rw [List.append_nil] at happend
  rw [happend]
  constructor
  · rintro ⟨k, rest, m, hcs, hk, hm, rfl⟩
    cases hm
    exact ⟨k, rest, hcs, hk, rfl⟩
  · rintro ⟨k, rest, hcs, hk, rfl⟩
    exact ⟨k, rest, 0, hcs, hk, rfl, rfl⟩

theorem wordSize?_hyphen_of_mark (hc : c = '_' ∨ c = '-') (cs : List Char) :
    wordSize? ('-' :: u) (c :: cs) = (wordSize? u cs).map (· + 1) := by
  rw [wordSize?, if_pos hc]

theorem wordSize?_hyphen_of_not_mark (hc : ∀ c ∈ cs.head?, ¬ (c = '_' ∨ c = '-')) :
    wordSize? ('-' :: u) cs = wordSize? u cs := by
  cases cs with
  | nil => rw [wordSize?]
  | cons c cs => rw [wordSize?, if_neg (hc c rfl)]

/-- In front of a word a hyphen, an underscore or nothing may stand. -/
theorem wordSize?_hyphen (hp : p.isLower = true) (hu : ∀ p ∈ u, p.isLower = true) (cs : List Char) :
    wordSize? ('-' :: p :: u) cs = some n ↔ ∃ k rest, cs = k ++ rest ∧
      (k.map fold = '_' :: p :: u ∨ k.map fold = '-' :: p :: u ∨ k.map fold = p :: u) ∧ n = k.length := by
  have hword := fun n => wordSize?_eq_some_iff (n := n) (List.forall_mem_cons.2 ⟨hp, hu⟩)
  constructor
  · intro h
    by_cases hmark : ∃ c rest, cs = c :: rest ∧ (c = '_' ∨ c = '-')
    · obtain ⟨c, rest, rfl, hc⟩ := hmark
      rw [wordSize?_hyphen_of_mark hc, Option.map_eq_some_iff] at h
      obtain ⟨n, hn, rfl⟩ := h
      obtain ⟨k, rest, rfl, hk, rfl⟩ := (hword _ _).1 hn
      refine ⟨c :: k, rest, rfl, ?_, rfl⟩
      rcases hc with rfl | rfl
      · exact Or.inl (by rw [List.map_cons, hk]; rfl)
      · exact Or.inr (Or.inl (by rw [List.map_cons, hk]; rfl))
    · rw [wordSize?_hyphen_of_not_mark] at h
      · obtain ⟨k, rest, hcs, hk, hn⟩ := (hword _ _).1 h
        exact ⟨k, rest, hcs, Or.inr (Or.inr hk), hn⟩
      · intro c hc hc'
        obtain ⟨rest, rfl⟩ := List.head?_eq_some_iff.1 hc
        exact hmark ⟨c, rest, rfl, hc'⟩
  · rintro ⟨k, rest, rfl, hk, rfl⟩
    have hmark : ∀ m, (m = '_' ∨ m = '-') → k.map fold = m :: p :: u →
        wordSize? ('-' :: p :: u) (k ++ rest) = some k.length := by
      intro m hm hk
      obtain ⟨c, k, rfl, hc, hk⟩ := List.map_eq_cons_iff.1 hk
      have hc' : c = m := (fold_eq_iff hm.symm).1 hc
      rw [List.cons_append, wordSize?_hyphen_of_mark (hc' ▸ hm),
        (hword k.length (k ++ rest)).2 ⟨k, rest, rfl, hk, rfl⟩]
      rfl
    rcases hk with hk | hk | hk
    · exact hmark '_' (Or.inl rfl) hk
    · exact hmark '-' (Or.inr rfl) hk
    · rw [wordSize?_hyphen_of_not_mark]
      · exact (hword _ _).2 ⟨k, rest, rfl, hk, rfl⟩
      · obtain ⟨c, k, rfl, hc, -⟩ := List.map_eq_cons_iff.1 hk
        rintro _ ⟨⟩ hmark
        rw [(fold_eq_iff hmark.symm).2 rfl] at hc
        rw [← hc] at hp
        rcases hmark with rfl | rfl <;> exact absurd hp (by decide)

end

/-- The two parts of the word that may be joined in three ways. -/
theorem wordSize?_apiKey {cs : List Char} {n : Nat} : wordSize? "api-key".toList cs = some n ↔
    ∃ k rest, cs = k ++ rest ∧ k.map fold ∈ ["api_key", "api-key", "apikey"].map String.toList ∧
      n = k.length := by
  have hkey := fun n => wordSize?_hyphen (p := 'k') (u := ['e', 'y']) (n := n) rfl (List.all_eq_true.1 rfl)
  refine (wordSize?_append (u := ['a', 'p', 'i']) (List.all_eq_true.1 rfl) ['-', 'k', 'e', 'y'] cs).trans ⟨?_, ?_⟩
  · rintro ⟨a, rest, m, rfl, ha, hm, rfl⟩
    obtain ⟨b, rest, rfl, hb, rfl⟩ := (hkey _ _).1 hm
    refine ⟨a ++ b, rest, (List.append_assoc ..).symm, ?_, List.length_append.symm⟩
    rw [List.map_append, ha]
    rcases hb with hb | hb | hb <;> rw [hb] <;> decide
  · rintro ⟨k, rest, rfl, hk, rfl⟩
    have hparts : ∃ u, k.map fold = ['a', 'p', 'i'] ++ u ∧
        (u = ['_', 'k', 'e', 'y'] ∨ u = ['-', 'k', 'e', 'y'] ∨ u = ['k', 'e', 'y']) := by
      simp only [List.map_cons, List.map_nil, List.mem_cons, List.not_mem_nil, or_false] at hk
      rcases hk with hk | hk | hk
      · exact ⟨_, hk, Or.inl rfl⟩
      · exact ⟨_, hk, Or.inr (Or.inl rfl)⟩
      · exact ⟨_, hk, Or.inr (Or.inr rfl)⟩
    obtain ⟨u, hk, hu⟩ := hparts
    obtain ⟨a, b, rfl, ha, rfl⟩ := List.map_eq_append_iff.1 hk
    exact ⟨a, b ++ rest, b.length, List.append_assoc .., ha, (hkey _ _).2 ⟨b, rest, rfl, hu, rfl⟩,
      List.length_append⟩

/-- A word is read where a marker stands. -/
theorem exists_wordSize?_iff {cs : List Char} {n : Nat} :
    (∃ word ∈ textMarkers, wordSize? word cs = some n) ↔
      ∃ k rest, IsMarker k ∧ cs = k ++ rest ∧ n = k.length := by
  have hsplit : textMarkers = "api-key".toList :: plainMarkers := by decide
  have hplain : ∀ word ∈ plainMarkers, word.all Char.isLower = true := by decide
  simp only [List.all_eq_true] at hplain
  rw [hsplit, List.exists_mem_cons_iff, wordSize?_apiKey]
  constructor
  · rintro (⟨k, rest, hcs, hk, hn⟩ | ⟨word, hword, hn⟩)
    · exact ⟨k, rest, List.mem_append_left _ hk, hcs, hn⟩
    · obtain ⟨k, rest, hcs, hk, hn⟩ := (wordSize?_eq_some_iff (hplain word hword) cs).1 hn
      exact ⟨k, rest, List.mem_append_right _ (hk ▸ hword), hcs, hn⟩
  · rintro ⟨k, rest, hk, hcs, hn⟩
    rcases List.mem_append.1 hk with hk | hk
    · exact Or.inl ⟨k, rest, hcs, hk, hn⟩
    · exact Or.inr ⟨_, hk, (wordSize?_eq_some_iff (hplain _ hk) cs).2 ⟨k, rest, hcs, rfl, hn⟩⟩

/-- The size of the marker at the beginning. -/
def marker? (cs : List Char) : Option Nat :=
  textMarkers.findSome? fun word => wordSize? word cs

/-- The marker that is found is the one that stands there. -/
theorem marker?_eq_some_iff {cs : List Char} {n : Nat} :
    marker? cs = some n ↔ ∃ k rest, IsMarker k ∧ cs = k ++ rest ∧ n = k.length := by
  have hfound : ∀ {n}, marker? cs = some n → ∃ k rest, IsMarker k ∧ cs = k ++ rest ∧ n = k.length := by
    intro n h
    obtain ⟨word, hword, hn⟩ := List.exists_of_findSome?_eq_some h
    exact exists_wordSize?_iff.1 ⟨word, hword, hn⟩
  refine ⟨hfound, ?_⟩
  rintro ⟨k, rest, hk, rfl, rfl⟩
  obtain ⟨word, hword, hn⟩ := exists_wordSize?_iff.2 ⟨k, rest, hk, rfl, rfl⟩
  have hsome : (marker? (k ++ rest)).isSome := by
    rw [marker?, List.findSome?_isSome_iff]
    exact ⟨word, hword, by rw [hn]; rfl⟩
  obtain ⟨n, hn⟩ := Option.isSome_iff_exists.1 hsome
  obtain ⟨k', rest', hk', heq, rfl⟩ := hfound hn
  -- of two markers at one place the shorter one begins the longer one
  have hsame : k = k' := by
    have hpre' : k' <+: k ++ rest := heq ▸ List.prefix_append k' rest'
    rcases List.prefix_or_prefix_of_prefix (List.prefix_append k rest) hpre' with hle | hle
    · exact hk.eq_of_prefix hk' hle
    · exact (hk'.eq_of_prefix hk hle).symm
  rw [hn, hsame]

end FieldRules.Redaction
