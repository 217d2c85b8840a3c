/-
The order of the rules of a field. Another order may let another rule speak first, but it refuses the same
candidates: the steps behind the type check are the same steps in another order (`compile_of_perm`), and a candidate
passes when all of them pass it. The gate and the type check come before them wherever they are declared, so their
messages do not depend on the order at all. The main statement is `compile_reordered`.
-/
import FieldRules.Proofs.Compile.Change
import FieldRules.Proofs.Pipeline.Failure

namespace FieldRules

namespace FieldSpec

variable {f f' : FieldSpec} {p p' : Pipeline}

theorem exists_compile_of_perm [PatternEngine] (h : f.toList.Perm f'.toList) (hp : ∃ p, f.compile = .ok p) :
    ∃ p', f'.compile = .ok p' := by
  obtain ⟨p, hp⟩ := hp
  obtain ⟨first, later, later', -, hp', -⟩ := compile_of_perm h hp
  exact ⟨_, hp'⟩

/-- A candidate passes in every order of the rules or in none. -/
theorem run_eq_none_iff_of_perm [PatternEngine] (h : f.toList.Perm f'.toList) (hp : f.compile = .ok p)
    (hp' : f'.compile = .ok p') (c : Candidate) : p.run c = none ↔ p'.run c = none := by
  obtain ⟨first, later, later', hsteps, hcompile, hperm, -⟩ := compile_of_perm h hp
  obtain rfl := Except.ok.inj (hcompile.symm.trans hp')
  apply Pipeline.run_eq_none_iff_of_perm
  rw [hsteps]
  exact hperm.cons first

/-- The gate and the type check fail in every order of the rules or in none. -/
theorem failure?_eq_some_iff_of_perm [PatternEngine] (h : f.toList.Perm f'.toList) (hp : f.compile = .ok p)
    (hp' : f'.compile = .ok p') (c : Candidate) {e : Failure} (he : e.key = requiredKey ∨ e.key = typeKey) :
    p.failure? c = some e ↔ p'.failure? c = some e := by
  obtain ⟨first, later, later', hsteps, hcompile, hperm, hkeys⟩ := compile_of_perm h hp
  obtain rfl := Except.ok.inj (hcompile.symm.trans hp')
  have hlater : ∀ st ∈ later, st.key ≠ e.key := by
    intro st hst hkey
    obtain ⟨htype, hgate⟩ := hkeys st hst
    rcases he with he | he
    · exact hgate (hkey.trans he)
    · exact htype (hkey.trans he)
  exact Pipeline.failure?_eq_some_iff_of_first hsteps hlater fun st hst => hlater st (hperm.mem_iff.2 hst)

/-- A field compiles in every order of its rules or in none. All the pipelines pass the same candidates, and where
one of them reports the message of the gate or of the type check, the others report the same. As long as the
rules other than these two keep their order, the pipelines are identical. -/
theorem compile_reordered [PatternEngine] (h : f.toList.Perm f'.toList) :
    ((∃ p, f.compile = .ok p) ↔ ∃ p', f'.compile = .ok p') ∧
    (∀ p p', f.compile = .ok p → f'.compile = .ok p' → ∀ c : Candidate,
      (p.run c = none ↔ p'.run c = none) ∧
      ∀ e : Failure, e.key = requiredKey ∨ e.key = typeKey →
        (p.failure? c = some e ↔ p'.failure? c = some e) ∧
        (p.failure? c = some e → p.run c = some e.message ∧ p'.run c = some e.message)) ∧
    (f.stepRules = f'.stepRules → f.compile = f'.compile) := by
  refine ⟨⟨exists_compile_of_perm h, exists_compile_of_perm h.symm⟩, fun p p' hp hp' c => ?_, fun hrules => ?_⟩
  · refine ⟨run_eq_none_iff_of_perm h hp hp' c, fun e he => ?_⟩
    have hboth := failure?_eq_some_iff_of_perm h hp hp' c he
    refine ⟨hboth, fun hfailure => ?_⟩
    rw [← p.map_failure?, ← p'.map_failure?, hfailure, hboth.1 hfailure]
    exact ⟨rfl, rfl⟩
  · exact compile_congr (Entries.get?_of_perm h _) (Entries.get?_of_perm h _) hrules

/-- The rules of a mandatory field of short names out of a list. -/
def sampleRules : List (String × List Json) :=
  [("max", [.ofNat 3, .text "too long"]), (typeKey, [.text "string", .text "no text"]),
   ("enum", [.list [.text "ann", .text "johanna"], .text "unknown"]), (requiredKey, [.text "missing"])]

/-- Backwards the two steps change places: a long unknown name gets the other message, and all else is the same. -/
theorem compile_reordered_sampleRules : ∃ p p' : Pipeline,
    (Entries.ofList sampleRules).toList.Perm (Entries.ofList sampleRules.reverse).toList ∧
    compile (Entries.ofList sampleRules) = .ok p ∧ compile (Entries.ofList sampleRules.reverse) = .ok p' ∧
    p.run (some (.text "robert")) = some "too long" ∧ p'.run (some (.text "robert")) = some "unknown" ∧
    (p.run (some (.text "ann")) = none ↔ p'.run (some (.text "ann")) = none) ∧
    p.run (some (.bool true)) = some "no text" ∧ p'.run (some (.bool true)) = some "no text" := by
  have hperm : (Entries.ofList sampleRules).toList.Perm (Entries.ofList sampleRules.reverse).toList :=
    (List.reverse_perm sampleRules).symm
  obtain ⟨-, hruns, -⟩ := compile_reordered hperm
  refine ⟨_, _, hperm, rfl, rfl, rfl, rfl, (hruns _ _ rfl rfl _).1, ?_⟩
  exact ((hruns _ _ rfl rfl _).2 ⟨typeKey, "no text"⟩ (Or.inr rfl)).2 rfl

end FieldSpec

end FieldRules
