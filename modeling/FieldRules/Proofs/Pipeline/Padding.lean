/-
Blanks at the ends of texts. The gate of a mandatory field, the length bounds with the flag and all checks of numbers
look at what trimming leaves of a text and at nothing else, so blanks that are put around a text change none of their
answers. The main statement is `padding_ignored`; it also says how the two forms of a length bound compare.
-/
import FieldRules.Check
import FieldRules.Proofs.Text.Trim

namespace FieldRules

variable {s t w₁ w₂ : String}

/-! ## Padded texts -/

theorem Text.trim_padded (h₁ : Text.isBlankText w₁ = true) (h₂ : Text.isBlankText w₂ = true) (s : String) :
    Text.trim (w₁ ++ s ++ w₂).toList = Text.trim s.toList := by
  rw [String.toList_append, String.toList_append, List.append_assoc, Text.trim_pad h₁ h₂]

/-- Every text is a core with blanks around it. -/
theorem Text.exists_padded (s : String) : ∃ w₁ core w₂, s = w₁ ++ core ++ w₂ ∧ Text.isBlankText w₁ = true ∧
    Text.isBlankText w₂ = true ∧ Text.IsBare core.toList := by
  obtain ⟨w, w', hw, hw', hs⟩ := Text.exists_pad s.toList
  refine ⟨.ofList w, .ofList (Text.trim s.toList), .ofList w', ?_, ?_, ?_, ?_⟩
  · rw [← String.toList_inj]
    simpa only [String.toList_append, String.toList_ofList, List.append_assoc] using hs
  · rwa [Text.isBlankText, String.toList_ofList]
  · rwa [Text.isBlankText, String.toList_ofList]
  · rw [String.toList_ofList]
    exact Text.isBare_trim s.toList

/-! ## Trimmed checks -/

/-- A text is defined when trimming leaves something of it. -/
theorem Candidate.isDefined_text_iff : isDefined (some (.text s)) = true ↔ Text.trim s.toList ≠ [] := by
  rw [isDefined, Bool.not_eq_true', ne_eq, Text.trim_eq_nil_iff, Bool.not_eq_true]
  exact Iff.rfl

/-- No check that goes by the trimmed text tells the two texts apart. -/
structure JudgedAlike (s t : String) : Prop where
  isDefined : Candidate.isDefined (some (.text s)) = Candidate.isDefined (some (.text t))
  minLength : ∀ n, (TextCheck.minLength n true).passes s = (TextCheck.minLength n true).passes t
  maxLength : ∀ n, (TextCheck.maxLength n true).passes s = (TextCheck.maxLength n true).passes t
  asNumber : (Json.text s).asNumber = (Json.text t).asNumber
  type : (Check.type .number).passes (.text s) = (Check.type .number).passes (.text t)
  number : ∀ c : NumberCheck, c.passes (.text s) = c.passes (.text t)

theorem NumberCheck.passes_congr {v v' : Json} (h : v.asNumber = v'.asNumber) (c : NumberCheck) :
    c.passes v = c.passes v' := by
  cases c with
  | integer => simp only [passes, Json.isIntegral, h]
  | compare op b => simp only [passes, Json.compares, h]
  | between l u _ => simp only [passes, Json.isBetween, h]

theorem judgedAlike_of_trim_eq (h : Text.trim s.toList = Text.trim t.toList) : JudgedAlike s t := by
  have hnumber : (Json.text s).asNumber = (Json.text t).asNumber := by
    rw [Json.asNumber, Json.asNumber, Decimal.number?, Decimal.number?, h]
  exact {
    isDefined := by rw [Bool.eq_iff_iff, Candidate.isDefined_text_iff, Candidate.isDefined_text_iff, h]
    minLength := fun n => by simp only [TextCheck.passes, textLength, if_true, h]
    maxLength := fun n => by simp only [TextCheck.passes, textLength, if_true, h]
    asNumber := hnumber
    type := congrArg Option.isSome hnumber
    number := NumberCheck.passes_congr hnumber }

/-! ## Lengths -/

/-- The length of a text, blanks at its ends included, is the number of its characters. -/
theorem textLength_false (s : String) : textLength s false = s.length :=
  String.length_toList

theorem textLength_true_le (s : String) : textLength s true ≤ textLength s false :=
  Text.length_trim_le s.toList

/-- Without the blanks at its ends, a text is as long as its core. -/
theorem textLength_padded (h₁ : Text.isBlankText w₁ = true) (h₂ : Text.isBlankText w₂ = true)
    (hs : Text.IsBare s.toList) : textLength (w₁ ++ s ++ w₂) true = textLength s false := by
  show (Text.trim (w₁ ++ s ++ w₂).toList).length = s.toList.length
  rw [Text.trim_padded h₁ h₂, Text.trim_of_isBare hs]

/-- Something is left of a text when at least one character is. -/
theorem Candidate.isDefined_text_eq (s : String) :
    isDefined (some (.text s)) = (TextCheck.minLength 1 true).passes s := by
  rw [Bool.eq_iff_iff, isDefined_text_iff, ← List.length_pos_iff]
  exact (decide_eq_true_iff (p := 1 ≤ textLength s true)).symm

/-- Blanks around a text count only where they are not trimmed: the gate, the length bounds with the flag and the
checks of numbers do not see them. With the flag a bound is one on the core of the text, so a lower one asks for more
and an upper one for less; the gate asks for one character of the core. -/
theorem padding_ignored :
    (∀ s w₁ w₂, Text.isBlankText w₁ = true → Text.isBlankText w₂ = true → JudgedAlike (w₁ ++ s ++ w₂) s) ∧
    (∀ s, ∃ w₁ core w₂, s = w₁ ++ core ++ w₂ ∧ Text.isBlankText w₁ = true ∧ Text.isBlankText w₂ = true ∧
      Text.IsBare core.toList) ∧
    (∀ core w₁ w₂, Text.isBlankText w₁ = true → Text.isBlankText w₂ = true → Text.IsBare core.toList → ∀ n,
      (TextCheck.minLength n true).passes (w₁ ++ core ++ w₂) = (TextCheck.minLength n false).passes core ∧
      (TextCheck.maxLength n true).passes (w₁ ++ core ++ w₂) = (TextCheck.maxLength n false).passes core) ∧
    (∀ s n, ((TextCheck.minLength n true).passes s = true → (TextCheck.minLength n false).passes s = true) ∧
      ((TextCheck.maxLength n false).passes s = true → (TextCheck.maxLength n true).passes s = true)) ∧
    (∀ s, Candidate.isDefined (some (.text s)) = (TextCheck.minLength 1 true).passes s) ∧
    ∀ s w₁ w₂ n,
      (TextCheck.minLength n false).passes (w₁ ++ s ++ w₂) = decide (n ≤ w₁.length + s.length + w₂.length) ∧
      (TextCheck.maxLength n false).passes (w₁ ++ s ++ w₂) = decide (w₁.length + s.length + w₂.length ≤ n) := by
  refine ⟨fun s w₁ w₂ h₁ h₂ => judgedAlike_of_trim_eq (Text.trim_padded h₁ h₂ s), Text.exists_padded,
    fun core w₁ w₂ h₁ h₂ hcore n => ?_, fun s n => ?_, Candidate.isDefined_text_eq, fun s w₁ w₂ n => ?_⟩
  · simp only [TextCheck.passes, textLength_padded h₁ h₂ hcore, and_self]
  · have hle := textLength_true_le s
    simp only [TextCheck.passes, decide_eq_true_eq]
    exact ⟨fun h => h.trans hle, fun h => hle.trans h⟩
  · simp only [TextCheck.passes, textLength_false, String.length_append, and_self]

/-- Blanks of one to three bytes around a text with a blank in it, which stays. -/
theorem padding_ignored_sampleText : Text.IsBare "é 1".toList ∧ JudgedAlike ("\u3000\t" ++ "é 1" ++ "\u0085") "é 1" ∧
    (TextCheck.maxLength 3 true).passes ("\u3000\t" ++ "é 1" ++ "\u0085") = true ∧
    (TextCheck.maxLength 3 false).passes ("\u3000\t" ++ "é 1" ++ "\u0085") = false := by
  obtain ⟨hpad, -, hcore, -, -, hlength⟩ := padding_ignored
  have hbare : Text.IsBare "é 1".toList := {
    head := by simpa using (show Text.isBlank 'é' = false by decide)
    last := by simpa using (show Text.isBlank '1' = false by decide) }
  exact ⟨hbare, hpad _ _ _ (by decide) (by decide), (hcore _ _ _ (by decide) (by decide) hbare 3).2,
    (hlength _ _ _ 3).2⟩

end FieldRules
