/-
Trimming. Around every text there are blanks at both ends, perhaps none, and between them stands a core that neither
begins nor ends with a blank. The core is what trimming leaves (`exists_pad`, `isBare_trim`), and as there is only one
core (`trim_of_pad`), more blanks at the ends change nothing (`trim_pad`).
-/
import FieldRules.Text.Blank
import Mathlib.Data.List.DropRight

namespace FieldRules.Text

variable {w w' cs core : List Char}

/-- Neither the first nor the last character is a blank. -/
structure IsBare (cs : List Char) : Prop where
  head : ∀ c ∈ cs.head?, isBlank c = false
  last : ∀ c ∈ cs.getLast?, isBlank c = false

theorem isBare_of_forall (h : ∀ c ∈ cs, isBlank c = false) : IsBare cs :=
  ⟨fun c hc => h c (List.mem_of_mem_head? hc), fun c hc => h c (List.mem_of_getLast? hc)⟩

/-- What is left of the blanks in front of a text that does not begin with one. -/
theorem dropWhile_pad (hw : w.all isBlank = true) (hcs : ∀ c ∈ cs.head?, isBlank c = false) :
    (w ++ cs).dropWhile isBlank = cs := by
  rw [List.dropWhile_append_of_pos (List.all_eq_true.1 hw)]
  cases cs with
  | nil => rfl
  | cons c cs => exact List.dropWhile_cons_of_neg (by rw [hcs c rfl]; exact Bool.false_ne_true)

theorem trimEnd_prefix (cs : List Char) : trimEnd cs <+: cs :=
  List.rdropWhile_prefix isBlank cs

/-- Trimming the end stops at the last character that is no blank, so nothing in front of such a one is lost. -/
theorem trimEnd_append_cons {c : Char} (hc : isBlank c = false) (cs rest : List Char) :
    trimEnd (cs ++ c :: rest) = cs ++ c :: trimEnd rest := by
  have hstop : (c :: cs.reverse).dropWhile isBlank = c :: cs.reverse :=
    List.dropWhile_cons_of_neg (by rw [hc]; exact Bool.false_ne_true)
  unfold trimEnd
  rw [List.reverse_append, List.reverse_cons, List.append_assoc, List.singleton_append, List.dropWhile_append]
  split
  · next hempty =>
    rw [hstop, List.isEmpty_iff.1 hempty, List.reverse_cons, List.reverse_reverse, List.reverse_nil]
  · rw [List.reverse_append, List.reverse_cons, List.reverse_reverse, List.append_assoc, List.singleton_append]

/-- A text has only one core. -/
theorem trim_of_pad (hw : w.all isBlank = true) (hw' : w'.all isBlank = true) (h : IsBare core) :
    trim (w ++ (core ++ w')) = core := by
  by_cases hne : core = []
  · rw [hne, List.nil_append, trim_eq_nil_iff, List.all_append, hw, hw']
    rfl
  · have hfront : ∀ c ∈ (core ++ w').head?, isBlank c = false := by
      rw [List.head?_append_of_ne_nil _ hne]
      exact h.head
    have hback : ∀ c ∈ core.reverse.head?, isBlank c = false := by
      rw [List.head?_reverse]
      exact h.last
    rw [trim, dropWhile_pad hw hfront, trimEnd, List.reverse_append,
      dropWhile_pad (by rwa [List.all_reverse]) hback, List.reverse_reverse]

theorem isBare_trim (cs : List Char) : IsBare (trim cs) where
  head := by
    -- trimming the end leaves the beginning, unless it leaves nothing
    intro c hc
    obtain ⟨rest, hrest⟩ := List.head?_eq_some_iff.1 hc
    have hpre : trim cs <+: cs.dropWhile isBlank := trimEnd_prefix _
    rw [hrest] at hpre
    obtain ⟨more, hmore⟩ := hpre
    have hhead := List.head?_dropWhile_not isBlank cs
    rw [← hmore] at hhead
    exact hhead
  last := by
    intro c hc
    obtain ⟨hne, rfl⟩ := List.mem_getLast?_eq_getLast hc
    exact Bool.eq_false_iff.2 (List.rdropWhile_last_not isBlank _ hne)

/-- The core of a text with the blanks around it. -/
theorem exists_pad (cs : List Char) : ∃ w w', w.all isBlank = true ∧ w'.all isBlank = true ∧
    cs = w ++ (trim cs ++ w') := by
  refine ⟨cs.takeWhile isBlank, ((cs.dropWhile isBlank).reverse.takeWhile isBlank).reverse, List.all_takeWhile, ?_, ?_⟩
  · rw [List.all_reverse]
    exact List.all_takeWhile
  · rw [trim, trimEnd, ← List.reverse_append, List.takeWhile_append_dropWhile, List.reverse_reverse,
      List.takeWhile_append_dropWhile]

theorem trim_of_isBare (h : IsBare cs) : trim cs = cs := by
  have hpad : trim ([] ++ (cs ++ [])) = cs := trim_of_pad rfl rfl h
  rwa [List.nil_append, List.append_nil] at hpad

/-- Blanks at the ends are trimmed away with those that stand there already. -/
theorem trim_pad (hw : w.all isBlank = true) (hw' : w'.all isBlank = true) (cs : List Char) :
    trim (w ++ (cs ++ w')) = trim cs := by
  obtain ⟨v, v', hv, hv', hcs⟩ := exists_pad cs
  have hall : w ++ (cs ++ w') = (w ++ v) ++ (trim cs ++ (v' ++ w')) := by
    conv_lhs => rw [hcs]
    simp only [List.append_assoc]
  rw [hall, trim_of_pad (by rw [List.all_append, hw, hv]; rfl) (by rw [List.all_append, hv', hw']; rfl)
    (isBare_trim cs)]

theorem length_trim_le (cs : List Char) : (trim cs).length ≤ cs.length := by
  obtain ⟨w, w', -, -, hcs⟩ := exists_pad cs
  conv_rhs => rw [hcs]
  simp only [List.length_append]
  omega

end FieldRules.Text
