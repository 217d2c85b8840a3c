/-
What becomes of a pipeline when its declaration changes. A declaration enters its pipeline in three ways only: by
what stands under the type key, by what stands under the gate key, and by the list of its other rules
(`compile_congr`). A rule more is a step more (`compile_insert_of_new`), a gate more changes the gate alone
(`compile_insert_gate`), another order of the rules is another order of the later steps (`compile_of_perm`), and a
rule declared again changes the step of its key where it stands (`compile_insert_of_old`).
-/
import FieldRules.Proofs.Compile.WellFormed
import FieldRules.Proofs.Compile.WellTyped
import Mathlib.Data.List.Perm.Basic

namespace FieldRules

/-! ## Keys and checks -/

namespace Constraint

/-- A key names one constraint, over all types. -/
theorem find?_key (c : Constraint) : all.find? (fun d => d.key = c.key) = some c := by
  cases c <;> rfl

theorem key_injective {c c' : Constraint} (h : c.key = c'.key) : c = c' := by
  have hc := find?_key c
  rw [h, find?_key c'] at hc
  exact (Option.some.inj hc).symm

/-- Arguments make one check at most. -/
theorem Reads.unique [PatternEngine] {c : Constraint} {arguments : List Json} {k k' : Check} (h : c.Reads arguments k)
    (h' : c.Reads arguments k') : k = k' := by
  have hk := h.check_eq_ok ⟨c.key, c.fieldType⟩
  rw [h'.check_eq_ok] at hk
  exact (Except.ok.inj hk).symm

end Constraint

namespace FieldSpec

variable {f f' : FieldSpec} {t t' : FieldType} {key : String} {arguments : List Json} {p p' : Pipeline}

/-- A rule makes one step at most, whatever the type of its field. -/
theorem MakesStep.unique [PatternEngine] {e : String × List Json} {st st' : Step} (h : MakesStep t e st)
    (h' : MakesStep t' e st') : st = st' := by
  obtain ⟨k, arguments⟩ := e
  cases h with
  | @intro _ m c positional check hc hreads =>
    generalize hargs : positional ++ [Json.text m] = arguments at h'
    cases h' with
    | @intro _ m' c' positional' check' hc' hreads' =>
      -- the message is the last argument, so both take the same arguments apart in the same way
      obtain ⟨rfl, hm⟩ := List.append_inj' hargs rfl
      cases hm
      obtain ⟨-, hkey⟩ := FieldType.constraint?_eq_some_iff.1 hc
      obtain ⟨-, hkey'⟩ := FieldType.constraint?_eq_some_iff.1 hc'
      obtain rfl := Constraint.key_injective (hkey.trans hkey'.symm)
      rw [hreads.unique hreads']

/-! ## Rules after an insertion -/

theorem get?_insert_of_ne {k : String} (h : k ≠ key) (arguments : List Json) :
    (f.insert key arguments).get? k = f.get? k := by
  rw [Entries.get?_insert, if_neg h]

/-- A rule under a new key stands behind the others. -/
theorem stepRules_insert_of_new (hkey : key ∉ f.keys) (htype : key ≠ typeKey) (hgate : key ≠ requiredKey)
    (arguments : List Json) : stepRules (f.insert key arguments) = f.stepRules ++ [(key, arguments)] := by
  unfold stepRules
  rw [Entries.toList_insert_of_not_mem hkey, List.filter_append]
  simp [htype, hgate]

/-- The gate is not among the rules that make steps. -/
theorem stepRules_insert_gate (hkey : requiredKey ∉ f.keys) (arguments : List Json) :
    stepRules (f.insert requiredKey arguments) = f.stepRules := by
  unfold stepRules
  rw [Entries.toList_insert_of_not_mem hkey, List.filter_append]
  simp

/-- A rule under an old key stands where the old one stood. -/
theorem stepRules_insert_of_old (hkey : key ∈ f.keys) (arguments : List Json) :
    stepRules (f.insert key arguments) = f.stepRules.map fun e => if e.1 = key then (key, arguments) else e := by
  unfold stepRules
  rw [Entries.toList_insert_of_mem hkey, List.filter_map]
  refine congrArg _ (List.filter_congr fun e _ => ?_)
  by_cases he : e.1 = key
  · simp [he]
  · simp [he]

/-! ## What a pipeline depends on -/

theorem typeRule_congr (h : f.get? typeKey = f'.get? typeKey) : f.typeRule = f'.typeRule := by
  unfold typeRule
  rw [h]

theorem gateRule_congr (h : f.get? requiredKey = f'.get? requiredKey) (t : FieldType) :
    f.gateRule t = f'.gateRule t := by
  unfold gateRule
  rw [h]

variable [PatternEngine]

theorem compile_congr (htype : f.get? typeKey = f'.get? typeKey) (hgate : f.get? requiredKey = f'.get? requiredKey)
    (hrules : f.stepRules = f'.stepRules) : f.compile = f'.compile := by
  unfold compile
  rw [typeRule_congr htype, hrules]
  simp only [gateRule_congr hgate]

/-- Every step has the message of the rule under its key. -/
theorem message_of_compile (hp : f.compile = .ok p) :
    ∀ st ∈ p.steps, ∃ arguments, f.get? st.key = some arguments ∧ arguments.getLast? = some (.text st.message) := by
  obtain ⟨t, m, g, later, ⟨htype, -⟩, -, hlater, rfl⟩ := compile_eq_ok_iff.1 hp
  intro st hst
  rcases List.mem_cons.1 hst with rfl | hst
  · exact ⟨_, htype, rfl⟩
  · obtain ⟨e, he, hstep⟩ := exists_of_mem_forall₂ hlater hst
    have hget : f.get? e.1 = some e.2 := (Entries.lookup_eq_some_iff_mem f.nodup).2 (mem_stepRules.1 he).1
    rw [hstep.typed.key]
    exact ⟨e.2, hget, hstep.typed.message⟩

theorem gate_of_compile (hp : f.compile = .ok p) {m : String} (hm : p.gate = .required m) :
    f.get? requiredKey = some [.text m] := by
  obtain ⟨t, m', g, later, -, hgate, -, rfl⟩ := compile_eq_ok_iff.1 hp
  rcases gateRule_eq_ok_iff.1 hgate with ⟨-, rfl⟩ | ⟨m'', hget, -, rfl⟩
  · cases hm
  · cases hm
    exact hget

theorem gate_of_not_mem (hp : f.compile = .ok p) (h : requiredKey ∉ f.keys) : p.gate = .optional := by
  obtain ⟨t, m, g, later, -, hgate, -, rfl⟩ := compile_eq_ok_iff.1 hp
  rcases gateRule_eq_ok_iff.1 hgate with ⟨-, rfl⟩ | ⟨m', hget, -⟩
  · rfl
  · have hnone : f.get? requiredKey = none := Entries.lookup_eq_none_iff.2 h
    rw [hnone] at hget
    cases hget

/-! ## Pipelines after an insertion -/

/-- A rule under a new key makes a step behind the others. -/
theorem compile_insert_of_new (hkey : key ∉ f.keys) (htype : key ≠ typeKey) (hgate : key ≠ requiredKey)
    (arguments : List Json) : compile (f.insert key arguments) =
      f.compile >>= fun p => (stepRule p.type key arguments).map fun st => { p with steps := p.steps ++ [st] } := by
  unfold compile
  rw [typeRule_congr (get?_insert_of_ne htype.symm arguments), stepRules_insert_of_new hkey htype hgate]
  simp only [gateRule_congr (get?_insert_of_ne hgate.symm arguments), mapM_concat]
  -- the parts are read in the order of their errors: the type, the gate, the old rules, the new rule
  cases f.typeRule with
  | error e => rfl
  | ok rule =>
    simp only [bind, Except.bind]
    cases f.gateRule rule.1 with
    | error e => rfl
    | ok g =>
      simp only
      cases f.stepRules.mapM (fun e => stepRule rule.1 e.1 e.2) with
      | error e => rfl
      | ok steps =>
        simp only
        cases stepRule rule.1 key arguments with
        | error e => rfl
        | ok st => rfl

/-- A gate where there was none changes nothing but the gate. -/
theorem compile_insert_gate (hkey : requiredKey ∉ f.keys) {m : String} (hm : m ≠ "") :
    compile (f.insert requiredKey [.text m]) = f.compile.map fun p => { p with gate := .required m } := by
  have hnone : ∀ t, f.gateRule t = .ok .optional := by
    intro t
    exact gateRule_eq_ok_iff.2 (Or.inl ⟨Entries.lookup_eq_none_iff.2 hkey, rfl⟩)
  have hsome : ∀ t, gateRule t (f.insert requiredKey [.text m]) = .ok (.required m) := by
    intro t
    refine gateRule_eq_ok_iff.2 (Or.inr ⟨m, ?_, hm, rfl⟩)
    rw [Entries.get?_insert, if_pos rfl]
  unfold compile
  rw [typeRule_congr (get?_insert_of_ne (by decide) [.text m]), stepRules_insert_gate hkey]
  simp only [hnone, hsome]
  cases f.typeRule with
  | error e => rfl
  | ok rule =>
    simp only [bind, Except.bind]
    cases f.stepRules.mapM (fun e => stepRule rule.1 e.1 e.2) with
    | error e => rfl
    | ok steps => rfl

/-! ## A rule declared again -/

/-- Steps of the same rules but for one key are the same but for the step of the key. -/
theorem forall₂_of_replaced {rules : List (String × List Json)} {steps steps' : List Step}
    (h : List.Forall₂ (MakesStep t) rules steps)
    (h' : List.Forall₂ (MakesStep t') (rules.map fun e => if e.1 = key then (key, arguments) else e) steps') :
    List.Forall₂ (fun st st' => st'.key = st.key ∧ (st.key ≠ key → st' = st)) steps steps' := by
  induction h generalizing steps' with
  | nil =>
    cases h'
    exact .nil
  | @cons e st rules steps hst _ ih =>
    rw [List.map_cons] at h'
    cases h' with
    | cons hst' hsteps' =>
      refine .cons ?_ (ih hsteps')
      -- the types may differ here: a rule makes the same step under every type that has its constraint
      by_cases he : e.1 = key
      · rw [if_pos he] at hst'
        refine ⟨by rw [hst'.typed.key, hst.typed.key, he], fun hne => (hne ?_).elim⟩
        rw [hst.typed.key, he]
      · rw [if_neg he] at hst'
        have hsame : _ = st := hst'.unique hst
        exact ⟨by rw [hsame], fun _ => hsame⟩

end FieldSpec

/-- The pipelines agree but for what stands under one key. -/
structure Pipeline.SameBut (key : String) (p p' : Pipeline) : Prop where
  isRequired : p'.isRequired = p.isRequired
  gate : key ≠ requiredKey → p'.gate = p.gate
  type : key ≠ typeKey → p'.type = p.type
  /-- Every step stands where it stood. -/
  steps : List.Forall₂ (fun st st' => st'.key = st.key ∧ (st.key ≠ key → st' = st)) p.steps p'.steps

namespace FieldSpec

variable {f f' : FieldSpec} {t t' : FieldType} {key : String} {arguments : List Json} {p p' : Pipeline}

/-- Whether a field is mandatory is said by the keys, and an old key adds none. -/
theorem contains_insert_of_old (hkey : key ∈ f.keys) (arguments : List Json) (k : String) :
    (f.insert key arguments).contains k = f.contains k := by
  rw [Bool.eq_iff_iff, Entries.contains_iff, Entries.contains_iff, Entries.keys_insert, if_pos hkey]

variable [PatternEngine]

/-- A rule that is declared again changes its own step and nothing else. -/
theorem compile_insert_of_old (hkey : key ∈ f.keys) (hp : f.compile = .ok p)
    (hp' : compile (f.insert key arguments) = .ok p') : p.SameBut key p' := by
  obtain ⟨t, m, g, steps, htype, hgate, hsteps, rfl⟩ := compile_eq_ok_iff.1 hp
  obtain ⟨t', m', g', steps', htype', hgate', hsteps', rfl⟩ := compile_eq_ok_iff.1 hp'
  rw [stepRules_insert_of_old hkey] at hsteps'
  have hsame : key ≠ typeKey → t' = t ∧ m' = m := by
    intro hne
    have hrule := typeRule_eq_ok_iff.2 htype'
    rw [typeRule_congr (get?_insert_of_ne hne.symm arguments), typeRule_eq_ok_iff.2 htype] at hrule
    cases hrule
    exact ⟨rfl, rfl⟩
  refine ⟨?_, fun hne => ?_, fun hne => (hsame hne).1, .cons ⟨rfl, fun hne => ?_⟩ (forall₂_of_replaced hsteps hsteps')⟩
  · show g'.isRequired = g.isRequired
    rw [gate_isRequired hgate, gate_isRequired hgate', contains_insert_of_old hkey]
  · -- what the gate is does not depend on the type, which may be another one now
    have hold : f.gateRule t' = .ok g := gateRule_eq_ok_iff.2 (gateRule_eq_ok_iff.1 hgate)
    rw [gateRule_congr (get?_insert_of_ne hne.symm arguments), hold] at hgate'
    exact (Except.ok.inj hgate').symm
  · obtain ⟨rfl, rfl⟩ := hsame (Ne.symm hne)
    rfl

/-! ## The order of the rules -/

/-- No step behind the type check has its key or that of the gate. -/
theorem key_ne_of_makesSteps {steps : List Step} (h : List.Forall₂ (MakesStep t) f.stepRules steps) :
    ∀ st ∈ steps, st.key ≠ typeKey ∧ st.key ≠ requiredKey := by
  intro st hst
  obtain ⟨e, he, hstep⟩ := exists_of_mem_forall₂ h hst
  rw [hstep.typed.key]
  exact (mem_stepRules.1 he).2

/-- Another order of the rules is another order of the steps behind the type check, and nothing else. -/
theorem compile_of_perm (h : f.toList.Perm f'.toList) (hp : f.compile = .ok p) : ∃ first later later',
    p.steps = first :: later ∧ f'.compile = .ok { p with steps := first :: later' } ∧ later.Perm later' ∧
      ∀ st ∈ later, st.key ≠ typeKey ∧ st.key ≠ requiredKey := by
  obtain ⟨t, m, g, later, ⟨htype, hne⟩, hgate, hlater, rfl⟩ := compile_eq_ok_iff.1 hp
  have hrules : f'.stepRules.Perm f.stepRules := (h.filter _).symm
  obtain ⟨later', hlater', hperm⟩ := List.perm_comp_forall₂ hrules hlater
  refine ⟨_, later, later', rfl, ?_, hperm.symm, key_ne_of_makesSteps hlater⟩
  refine compile_eq_ok_iff.2 ⟨t, m, g, later', ⟨?_, hne⟩, ?_, hlater', rfl⟩
  · rw [← Entries.get?_of_perm h]
    exact htype
  · rw [← gateRule_congr (Entries.get?_of_perm h requiredKey)]
    exact hgate

end FieldSpec

end FieldRules
