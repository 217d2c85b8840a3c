/-
One rule more, and one rule declared again. A rule under a new key is asked last, so it can only refuse what passed
before, and only with its own message; whatever was refused is refused as it was. A rule under an old key takes the
place of the old one, and the rest of the pipeline stays. The main statement is `insert_restricts`.
-/
import FieldRules.Proofs.Compile.Change
import FieldRules.Proofs.Pipeline.Failure

namespace FieldRules

namespace Pipeline

variable {p : Pipeline} {c : Candidate}

/-! ## One step more -/

/-- What is refused is refused as before. -/
theorem run_append_of_some {m : String} (h : p.run c = some m) (s : Step) :
    run c { p with steps := p.steps ++ [s] } = some m := by
  rw [run_append, h]
  rfl

/-- What passed is refused by the new step at most. -/
theorem run_append_of_none (h : p.run c = none) (s : Step) :
    run c { p with steps := p.steps ++ [s] } = none ∨
      run c { p with steps := p.steps ++ [s] } = some s.message := by
  rw [run_append, h, Option.none_or]
  cases p.gate.handed? c with
  | none => exact Or.inl rfl
  | some v => exact s.run_eq_none_or v

/-- What is missing does not get as far as the steps. -/
theorem run_append_of_isAbsent (h : c.isAbsent = true) (s : Step) :
    run c { p with steps := p.steps ++ [s] } = p.run c := by
  rw [run_of_isAbsent h, run_of_isAbsent h]

end Pipeline

namespace FieldSpec

variable {f : FieldSpec} {p p' : Pipeline} {key : String} {arguments : List Json}

/-! ## One rule more -/

theorem exists_step_of_insert [PatternEngine] (hp : f.compile = .ok p) (hkey : key ∉ f.keys) (htype : key ≠ typeKey)
    (hgate : key ≠ requiredKey) (hp' : compile (f.insert key arguments) = .ok p') :
    ∃ st, stepRule p.type key arguments = .ok st ∧ p' = { p with steps := p.steps ++ [st] } := by
  rw [compile_insert_of_new hkey htype hgate, hp] at hp'
  obtain ⟨st, hst, rfl⟩ := map_eq_ok_iff.1 hp'
  exact ⟨st, hst, rfl⟩

/-! ## One rule again -/

/-- The step of the key that is declared again, and the gate if it is that, have the new message. -/
theorem message_of_insert [PatternEngine] (hp' : compile (f.insert key arguments) = .ok p') :
    (∀ st ∈ p'.steps, st.key = key → arguments.getLast? = some (.text st.message)) ∧
      ∀ m, key = requiredKey → p'.gate = .required m → arguments = [.text m] := by
  constructor
  · intro st hst hkey
    obtain ⟨arguments', hget, hlast⟩ := message_of_compile hp' st hst
    rw [Entries.get?_insert, if_pos hkey] at hget
    cases hget
    exact hlast
  · intro m hkey hm
    have hget := gate_of_compile hp' hm
    rw [Entries.get?_insert, if_pos hkey.symm] at hget
    exact Option.some.inj hget

/-- A rule under a new key, other than the type and the gate, adds a step at the end: every message that a candidate
had stays, a candidate that passed is refused with the message of the new rule or not at all, and for missing
candidates nothing changes. A rule under an old key changes what stands under this key, and nothing else. -/
theorem insert_restricts [PatternEngine] :
    (∀ (f : FieldSpec) (key : String) (arguments : List Json) (p p' : Pipeline), f.compile = .ok p →
      key ∉ f.keys → key ≠ typeKey → key ≠ requiredKey → compile (f.insert key arguments) = .ok p' →
      ∃ st : Step, stepRule p.type key arguments = .ok st ∧ st.key = key ∧
        arguments.getLast? = some (.text st.message) ∧ p' = { p with steps := p.steps ++ [st] } ∧
        (∀ (c : Candidate) m, p.run c = some m → p'.run c = some m) ∧
        (∀ c : Candidate, p.run c = none → p'.run c = none ∨ p'.run c = some st.message) ∧
        ∀ c : Candidate, c.isAbsent = true → p'.run c = p.run c) ∧
    ∀ (f : FieldSpec) (key : String) (arguments : List Json) (p p' : Pipeline), f.compile = .ok p →
      key ∈ f.keys → compile (f.insert key arguments) = .ok p' →
      p.SameBut key p' ∧
        (∀ st ∈ p'.steps, st.key = key → arguments.getLast? = some (.text st.message)) ∧
        ∀ m, key = requiredKey → p'.gate = .required m → arguments = [.text m] := by
  constructor
  · intro f key arguments p p' hp hkey htype hgate hp'
    obtain ⟨st, hst, rfl⟩ := exists_step_of_insert hp hkey htype hgate hp'
    have htyped : st.TypedFor p.type (key, arguments) := MakesStep.typed (stepRule_eq_ok_iff.1 hst)
    refine ⟨st, hst, htyped.key, htyped.message, rfl, fun c m h => ?_, fun c h => ?_, fun c h => ?_⟩
    · exact Pipeline.run_append_of_some h st
    · exact Pipeline.run_append_of_none h st
    · exact Pipeline.run_append_of_isAbsent h st
  · intro f key arguments p p' hp hkey hp'
    exact ⟨compile_insert_of_old hkey hp hp', message_of_insert hp'⟩

/-- An optional field of texts that are not long. -/
def sampleLength : FieldSpec :=
  Entries.ofList [("max", [.ofNat 3, .text "too long"]), (typeKey, [.text "string", .text "no text"])]

theorem insert_restricts_sampleLength : ∃ p bounded longer : Pipeline, sampleLength.compile = .ok p ∧
    compile (sampleLength.insert "min" [.ofNat 2, .text "too short"]) = .ok bounded ∧
    compile (sampleLength.insert "max" [.ofNat 4, .text "far too long"]) = .ok longer ∧
    bounded.run (some (.text "anna")) = some "too long" ∧
    (bounded.run (some (.text "a")) = none ∨ bounded.run (some (.text "a")) = some "too short") ∧
    bounded.run (some .null) = p.run (some .null) ∧
    p.SameBut "max" longer ∧ longer.run (some (.text "anna")) = none := by
  obtain ⟨hnew, hold⟩ := insert_restricts
  obtain ⟨st, hst, -, -, -, hrefused, hpassed, hmissing⟩ :=
    hnew sampleLength "min" [.ofNat 2, .text "too short"] _ _ rfl (by decide) (by decide) (by decide) rfl
  cases hst
  have hagain := hold sampleLength "max" [.ofNat 4, .text "far too long"] _ _ rfl (by decide) rfl
  exact ⟨_, _, _, rfl, rfl, rfl, hrefused _ _ rfl, hpassed _ rfl, hmissing _ rfl, hagain.1, rfl⟩

end FieldSpec

end FieldRules
