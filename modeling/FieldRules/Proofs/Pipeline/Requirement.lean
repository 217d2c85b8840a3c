/-
Making a field mandatory. The two gates have two notions of a missing value: an optional field goes by whether the
candidate is there and not null, a mandatory one also by whether it is a text of blanks. They differ on such texts
and nowhere else, so a gate that is added changes the answers on missing values and on blank texts, and no other.
The main statement is `insert_required`.
-/
import FieldRules.Proofs.Compile.Change
import FieldRules.Proofs.Compile.Meaning
import FieldRules.Proofs.Pipeline.Failure

namespace FieldRules

theorem Candidate.isAbsent_iff {c : Candidate} : c.isAbsent = true ↔ c = none ∨ c = some .null := by
  match c with
  | none | some .null => simp [isAbsent, Json.isNull]
  | some (.text _) | some (.bool _) | some (.number _) | some (.list _) | some (.object _) =>
    simp [isAbsent, Json.isNull]

namespace Pipeline

variable {p : Pipeline} {m : String}

/-! ## Two gates before the same steps -/

theorem run_optional_of_isAbsent (hgate : p.gate = .optional) {c : Candidate} (h : c.isAbsent = true) :
    p.run c = none := by
  rw [run_of_isAbsent h, hgate]
  rfl

/-- A mandatory field answers for itself on whatever is not defined. -/
theorem run_required_of_not_isDefined {c : Candidate} (h : c.isDefined = false) :
    run c { p with gate := .required m } = some m := by
  simp [run_eq, Gate.handed?, Gate.missing?, h]

/-- Behind both gates the steps answer on a value that is defined. -/
theorem run_required_of_isDefined (hgate : p.gate = .optional) {v : Json} (h : Candidate.isDefined (some v) = true) :
    run (some v) { p with gate := .required m } = p.run (some v) := by
  have hpresent : Candidate.isAbsent (some v) = false := by
    rw [← Bool.not_eq_true]
    intro habsent
    rw [Candidate.isDefined_eq_false_iff.2 (Or.inl habsent)] at h
    cases h
  have hoptional : p.gate.handed? (some v) = some v := by
    rw [hgate]
    simp [Gate.handed?, hpresent]
  rw [run_of_handed hoptional]
  apply run_of_handed
  exact if_pos h

end Pipeline

namespace FieldSpec

variable {f : FieldSpec} {p : Pipeline} {m : String}

/-- An optional field judges every text, blank or not. -/
theorem run_text_eq_judge [PatternEngine] (hp : f.compile = .ok p) (hkey : requiredKey ∉ f.keys) (s : String) :
    p.run (some (.text s)) = f.judge (.text s) := by
  have hnone : f.get? requiredKey = none := Entries.lookup_eq_none_iff.2 hkey
  rw [run_eq_answer hp, answer, hnone]
  rfl

/-- A field without a gate compiles with one as well. On what is missing or null the optional field passes and the
mandatory one has its message; on a text of blanks, the empty one included, the mandatory field has its message
where the optional one goes on to judge the text; on every other candidate they say the same. No gate lets a
candidate pass that has no value. -/
theorem insert_required [PatternEngine] (hp : f.compile = .ok p) (hkey : requiredKey ∉ f.keys) (hm : m ≠ "") :
    ∃ p', compile (f.insert requiredKey [.text m]) = .ok p' ∧
      (∀ c : Candidate, c = none ∨ c = some .null → p.run c = none ∧ p'.run c = some m) ∧
      (∀ s : String, (∀ ch ∈ s.toList, Text.isBlank ch = true) →
        p'.run (some (.text s)) = some m ∧ p.run (some (.text s)) = f.judge (.text s)) ∧
      (∀ v : Json, v ≠ .null → (∀ s, v = .text s → ¬ ∀ ch ∈ s.toList, Text.isBlank ch = true) →
        p'.run (some v) = p.run (some v)) ∧
      ∀ (q : Pipeline) (c : Candidate), q.gate.evaluate c = .requiredPass ∨ q.gate.evaluate c = .optionalPresent →
        ∃ v, c = some v := by
  have hgate : p.gate = .optional := gate_of_not_mem hp hkey
  have hp' : compile (f.insert requiredKey [.text m]) = .ok { p with gate := .required m } := by
    rw [compile_insert_gate hkey hm, hp]
    rfl
  refine ⟨_, hp', fun c hc => ?_, fun s hs => ?_, fun v hv hblank => ?_, fun q c => Gate.exists_of_pass⟩
  · have habsent : c.isAbsent = true := Candidate.isAbsent_iff.2 hc
    refine ⟨Pipeline.run_optional_of_isAbsent hgate habsent, ?_⟩
    exact Pipeline.run_required_of_not_isDefined (Candidate.isDefined_eq_false_iff.2 (Or.inl habsent))
  · refine ⟨?_, run_text_eq_judge hp hkey s⟩
    exact Pipeline.run_required_of_not_isDefined (Candidate.isDefined_eq_false_iff.2 (Or.inr ⟨s, rfl, hs⟩))
  · -- there is a value, and it is neither null nor a text of blanks
    apply Pipeline.run_required_of_isDefined hgate
    rw [← Bool.not_eq_false, Candidate.isDefined_eq_false_iff, Candidate.isAbsent_iff]
    rintro ((hnone | hnull) | ⟨s, htext, hs⟩)
    · cases hnone
    · exact hv (Option.some.inj hnull)
    · exact hblank s (Option.some.inj htext) hs

/-- An optional nickname of two characters at least. -/
def sampleNickname : FieldSpec :=
  Entries.ofList [(typeKey, [.text "string", .text "no text"]), ("min", [.ofNat 2, .text "too short"])]

/-- A blank nickname is too short, and once nicknames are mandatory it is missing. -/
theorem insert_required_sampleNickname : ∃ p p' : Pipeline, sampleNickname.compile = .ok p ∧
    compile (sampleNickname.insert requiredKey [.text "missing"]) = .ok p' ∧
    p.run none = none ∧ p'.run none = some "missing" ∧
    p.run (some (.text " ")) = some "too short" ∧ p'.run (some (.text " ")) = some "missing" ∧
    p'.run (some (.bool true)) = p.run (some (.bool true)) ∧ p.run (some (.bool true)) = some "no text" := by
  obtain ⟨p', hp', hmissing, hblank, hother, -⟩ :=
    insert_required (f := sampleNickname) (m := "missing") rfl (by decide) (by decide)
  have hspace := hblank " " (List.forall_mem_singleton.2 rfl)
  have hbool := hother (.bool true) Json.noConfusion fun s hs => Json.noConfusion hs
  exact ⟨_, p', rfl, hp', (hmissing none (Or.inl rfl)).1, (hmissing none (Or.inl rfl)).2, rfl, hspace.1, hbool, rfl⟩

end FieldSpec

end FieldRules
