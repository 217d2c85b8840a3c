/-
What a run goes by. The gate either hands a value to the steps (`Gate.handed?`) or settles the candidate itself
(`Gate.missing?`); of the steps the first one that fails answers. `Pipeline.run_eq` says that a run is no more than
this, and the laws of runs are derived from it.

`Pipeline.failure?` follows a run and keeps the key of the rule that failed beside its message, so that the message
of the gate or of the type check can be told from the same words elsewhere.
-/
import FieldRules.Declaration
import FieldRules.Pipeline
import Mathlib.Data.List.Basic

namespace FieldRules

/-- A rule that a candidate fails: its key and its message. -/
structure Failure where
  key : String
  message : String

/-! ## The gate -/

/-- Missing, null or a text of blanks: this is what a mandatory field refuses. -/
theorem Candidate.isDefined_eq_false_iff {c : Candidate} :
    c.isDefined = false ↔ c.isAbsent = true ∨ ∃ s, c = some (.text s) ∧ ∀ ch ∈ s.toList, Text.isBlank ch = true := by
  match c with
  | none | some .null => simp [isDefined, isAbsent, Json.isNull]
  | some (.text s) => simp [isDefined, isAbsent, Json.isNull, Text.isBlankText]
  | some (.bool _) | some (.number _) | some (.list _) | some (.object _) => simp [isDefined, isAbsent, Json.isNull]

namespace Gate

variable {c : Candidate} {g : Gate} {m : String}

/-- The value that the gate hands to the steps. -/
def handed? (c : Candidate) : Gate → Option Json
  | required _ => if c.isDefined then c else none
  | optional => if c.isAbsent then none else c

/-- What a gate says of a candidate that it hands no value of. -/
def missing? : Gate → Option Failure
  | required message => some ⟨requiredKey, message⟩
  | optional => none

/-- Nothing passes a gate without a value. -/
theorem exists_of_pass (h : g.evaluate c = .requiredPass ∨ g.evaluate c = .optionalPresent) : ∃ v, c = some v := by
  cases c with
  | some v => exact ⟨v, rfl⟩
  | none => cases g <;> simp [evaluate, Candidate.isDefined, Candidate.isAbsent] at h

theorem handed?_of_isAbsent (h : c.isAbsent = true) (g : Gate) : g.handed? c = none := by
  cases g with
  | required m => simp [handed?, Candidate.isDefined_eq_false_iff.2 (Or.inl h)]
  | optional => simp [handed?, h]

end Gate

/-! ## The steps -/

/-- The failure of a step on a value. -/
def Step.failure? (v : Json) (s : Step) : Option Failure :=
  if s.check.passes v then none else some ⟨s.key, s.message⟩

namespace Step

variable {v : Json} {s : Step} {steps steps' : List Step} {e : Failure}

theorem map_failure? (v : Json) (s : Step) : (s.failure? v).map Failure.message = s.run v := by
  unfold run failure?
  split
  · rfl
  · rfl

theorem key_of_failure? (h : s.failure? v = some e) : s.key = e.key := by
  unfold failure? at h
  split at h
  · cases h
  · cases h
    rfl

theorem run_eq_none_or (v : Json) (s : Step) : s.run v = none ∨ s.run v = some s.message := by
  unfold run
  split
  · exact Or.inl rfl
  · exact Or.inr rfl

/-- Whether some step fails does not depend on the order of the steps. -/
theorem findSome?_eq_none_of_perm (h : steps.Perm steps') :
    steps.findSome? (run v) = none ↔ steps'.findSome? (run v) = none := by
  simp only [List.findSome?_eq_none_iff, h.mem_iff]

/-- A failure under a key that only the first step has is the failure of the first step. -/
theorem findSome?_cons_eq_some_iff (h : ∀ s' ∈ steps, s'.key ≠ e.key) :
    (s :: steps).findSome? (failure? v) = some e ↔ s.failure? v = some e := by
  rw [List.findSome?_cons]
  cases s.failure? v with
  | some _ => rfl
  | none =>
    constructor
    · -- a failure of a later step would have the key of that step
      intro hsteps
      obtain ⟨s', hs', hfailure⟩ := List.exists_of_findSome?_eq_some hsteps
      exact (h s' hs' (key_of_failure? hfailure)).elim
    · intro hnone
      cases hnone

end Step

/-! ## The run -/

namespace Pipeline

variable {c : Candidate} {p : Pipeline} {e : Failure}

/-- A run asks the steps about the value that the gate hands over, and without one the gate answers. -/
theorem run_eq (c : Candidate) (p : Pipeline) : p.run c =
    match p.gate.handed? c with
    | some v => p.steps.findSome? (Step.run v)
    | none => p.gate.missing?.map Failure.message := by
  obtain ⟨g, t, steps⟩ := p
  unfold run
  cases g with
  | required m =>
    by_cases h : c.isDefined = true
    · obtain ⟨v, rfl⟩ := Gate.exists_of_pass (g := .required m) (c := c) (Or.inl (if_pos h))
      simp [Gate.evaluate, Gate.handed?, h]
    · simp [Gate.evaluate, Gate.handed?, Gate.missing?, h]
  | optional =>
    by_cases h : c.isAbsent = true
    · simp [Gate.evaluate, Gate.handed?, Gate.missing?, h]
    · obtain ⟨v, rfl⟩ := Gate.exists_of_pass (g := .optional) (c := c) (Or.inr (if_neg h))
      simp [Gate.evaluate, Gate.handed?, h]

theorem run_of_handed {v : Json} (h : p.gate.handed? c = some v) : p.run c = p.steps.findSome? (Step.run v) := by
  rw [run_eq, h]

theorem run_of_isAbsent (h : c.isAbsent = true) (p : Pipeline) : p.run c = p.gate.missing?.map Failure.message := by
  rw [run_eq, Gate.handed?_of_isAbsent h]

/-- The rule that a candidate fails. -/
def failure? (c : Candidate) (p : Pipeline) : Option Failure :=
  match p.gate.handed? c with
  | some v => p.steps.findSome? (Step.failure? v)
  | none => p.gate.missing?

/-- A run reports the message of the rule that fails. -/
theorem map_failure? (c : Candidate) (p : Pipeline) : (p.failure? c).map Failure.message = p.run c := by
  rw [run_eq, failure?]
  cases p.gate.handed? c with
  | none => rfl
  | some v =>
    rw [List.map_findSome?]
    exact congrArg (p.steps.findSome? ·) (funext fun s => s.map_failure? v)

/-- A step more at the end is asked about the values that the others pass. -/
theorem run_append (c : Candidate) (p : Pipeline) (s : Step) :
    run c { p with steps := p.steps ++ [s] } = (p.run c).or ((p.gate.handed? c).bind fun v => s.run v) := by
  rw [run_eq, run_eq]
  cases p.gate.handed? c with
  | none => exact (Option.or_none ..).symm
  | some v =>
    simp only [List.findSome?_append, Option.bind_some, List.findSome?_singleton]

/-- The order of the steps does not decide whether a candidate passes. -/
theorem run_eq_none_iff_of_perm {steps : List Step} (h : p.steps.Perm steps) (c : Candidate) :
    p.run c = none ↔ run c { p with steps := steps } = none := by
  rw [run_eq, run_eq]
  cases p.gate.handed? c with
  | none => rfl
  | some v => exact Step.findSome?_eq_none_of_perm h

/-- The steps behind the first one do not decide about failures under keys that they do not have. -/
theorem failure?_eq_some_iff_of_first {first : Step} {later later' : List Step} (hsteps : p.steps = first :: later)
    (hlater : ∀ s ∈ later, s.key ≠ e.key) (hlater' : ∀ s ∈ later', s.key ≠ e.key) :
    p.failure? c = some e ↔ failure? c { p with steps := first :: later' } = some e := by
  rw [failure?, failure?, hsteps]
  cases p.gate.handed? c with
  | none => rfl
  | some v => exact (Step.findSome?_cons_eq_some_iff hlater).trans (Step.findSome?_cons_eq_some_iff hlater').symm

end Pipeline

end FieldRules
