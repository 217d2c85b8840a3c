/-
The verdict of a validation run. A run may stop early, but it stops behind an invalid record only, so whether it
finds one does not depend on when it stops: `exitCode_eq_of_validates`.
-/
import FieldRules.Proofs.Command.Account

namespace FieldRules

namespace Schema

variable {s : Schema} {c : BatchSettings} {echo : Bool} {files : Files} {inputs taken : List String}
  {outcome : Except CommandError FileRun}

theorem reportOn_invalid_eq_nil_iff {i : String × List Json} :
    (s.reportOn c echo i).batch.invalid = [] ↔ ∀ record ∈ i.2, s.validate record = [] := by
  show (s.validateBatch c i.2).invalid = [] ↔ _
  rw [← List.isEmpty_iff, ← BatchReport.isValid, validateBatch_isValid, List.all_eq_true]
  exact forall₂_congr fun _ _ => isValid_iff

/-- A run over inputs that load comes to its end, and it finds an invalid record exactly when there is one. -/
theorem Takes.exists_run_valid_iff (h : s.Takes c echo files inputs taken outcome) {loaded : List (String × List Json)}
    (hinputs : inputs = loaded.map Prod.fst) (hloads : ∀ i ∈ loaded, readRecords files i.1 = .ok i.2) :
    ∃ run, outcome = .ok run ∧ ((∀ f ∈ run.files, f.batch.invalid = []) ↔
      ∀ i ∈ loaded, ∀ record ∈ i.2, s.validate record = []) := by
  induction h generalizing loaded with
  | nil =>
    rw [eq_comm, List.map_eq_nil_iff] at hinputs
    subst hinputs
    exact ⟨_, rfl, by simp⟩
  | unloaded rest hload =>
    obtain ⟨i, loaded, rfl, rfl, rfl⟩ := List.map_eq_cons_iff.1 hinputs.symm
    rw [hloads i List.mem_cons_self] at hload
    cases hload
  | stopped rest hload _ hinvalid =>
    obtain ⟨i, loaded, rfl, rfl, rfl⟩ := List.map_eq_cons_iff.1 hinputs.symm
    rw [hloads i List.mem_cons_self] at hload
    cases hload
    -- both sides fail, for the first input has an invalid record
    have hreport : (s.reportOn c echo i).batch.invalid = [] ↔ _ := reportOn_invalid_eq_nil_iff
    have hfirst : ¬ ∀ record ∈ i.2, s.validate record = [] :=
      mt hreport.2 (List.isEmpty_eq_false_iff.1 hinvalid)
    refine ⟨_, rfl, fun hall => (hfirst ?_).elim, fun hall => (hfirst (hall i List.mem_cons_self)).elim⟩
    exact reportOn_invalid_eq_nil_iff.1 (hall _ List.mem_cons_self)
  | next hload _ _ ih =>
    obtain ⟨i, loaded, rfl, rfl, rfl⟩ := List.map_eq_cons_iff.1 hinputs.symm
    rw [hloads i List.mem_cons_self] at hload
    cases hload
    obtain ⟨run, rfl, hiff⟩ := ih rfl fun j hj => hloads j (List.mem_cons_of_mem i hj)
    refine ⟨_, rfl, ?_⟩
    rw [List.forall_mem_cons, List.forall_mem_cons, reportOn_invalid_eq_nil_iff, hiff]

end Schema

/-! ## The command -/

/-- A command line that validates inputs against a schema, where the settings, the schema and the inputs load. -/
structure CommandLine.Validates [PatternEngine] (a : CommandLine) (w : Surroundings) (s : Schema)
    (inputs : List (String × List Json)) : Prop where
  settings_load : ∃ found, Settings.find w a.config = .ok found
  command_eq : ∃ schema failFast maxErrors echo, readSchema w.files schema = .ok s ∧
    a.command = .validate schema (inputs.map Prod.fst) failFast maxErrors echo
  inputs_load : ∀ i ∈ inputs, readRecords w.files i.1 = .ok i.2

namespace Outcome

def Succeeds (o : Outcome) : Prop :=
  o.exitCode = 0

/-- The program ends because some records are invalid. -/
def FailsValidation (o : Outcome) : Prop :=
  o.exitCode = 1 ∧ ∃ output lines color invalid checked,
    o = .ofFailure output lines color (.validationFailed invalid checked)

end Outcome

theorem Command.runValidate_result [PatternEngine] {w : Surroundings} {schema : String} {s : Schema}
    (hs : readSchema w.files schema = .ok s) {inputs : List (String × List Json)}
    (hinputs : ∀ i ∈ inputs, readRecords w.files i.1 = .ok i.2) (c : BatchSettings) (echo : Bool) :
    ((runValidate w c schema (inputs.map Prod.fst) echo).result = .ok () ∧
      ∀ i ∈ inputs, ∀ record ∈ i.2, s.validate record = []) ∨
    ((∃ invalid checked, (runValidate w c schema (inputs.map Prod.fst) echo).result =
        .error (.validationFailed invalid checked)) ∧
      ¬ ∀ i ∈ inputs, ∀ record ∈ i.2, s.validate record = []) := by
  obtain ⟨run, hrun, hiff⟩ :=
    (s.takes_validateInputs c echo w.files (inputs.map Prod.fst)).exists_run_valid_iff rfl hinputs
  rw [← hiff, (runValidate_of_ok hs hrun).1]
  by_cases hvalid : ∀ f ∈ run.files, f.batch.invalid = []
  · exact Or.inl ⟨RunReport.verdict_of_valid hvalid, hvalid⟩
  · have hinvalid := hvalid
    push Not at hinvalid
    exact Or.inr ⟨⟨_, _, RunReport.verdict_of_invalid hinvalid⟩, hvalid⟩

namespace CommandLine

variable {a a' : CommandLine} {w w' : Surroundings} {s : Schema} {inputs : List (String × List Json)}

/-- With settings that load the program ends as its command does. -/
theorem exists_run_eq [PatternEngine] {found : List String × Settings} (hfound : Settings.find w a.config = .ok found) :
    ∃ console lines color, a.run w = match a.command.run w found.2 console with
      | (output, .ok ()) => ⟨output, String.join (lines.map (· ++ "\n")), 0⟩
      | (output, .error e) => .ofFailure output lines color e := by
  unfold run
  rw [hfound]
  exact ⟨_, _, _, rfl⟩

/-- The program succeeds on records that are all valid, and else fails because of the invalid ones. -/
theorem Validates.run [PatternEngine] (h : a.Validates w s inputs) :
    ((a.run w).Succeeds ∧ ∀ i ∈ inputs, ∀ record ∈ i.2, s.validate record = []) ∨
    ((a.run w).FailsValidation ∧ ¬ ∀ i ∈ inputs, ∀ record ∈ i.2, s.validate record = []) := by
  obtain ⟨⟨found, hfound⟩, ⟨schema, failFast, maxErrors, echo, hs, hcommand⟩, hinputs⟩ := h
  obtain ⟨console, lines, color, hrun⟩ := exists_run_eq hfound
  rw [hrun, hcommand]
  rcases Command.runValidate_result hs hinputs (found.2.validation.override failFast maxErrors) echo with
    ⟨hresult, hvalid⟩ | ⟨⟨invalid, checked, hresult⟩, hinvalid⟩
  · rw [Command.run, hresult]
    exact Or.inl ⟨rfl, hvalid⟩
  · rw [Command.run, hresult]
    exact Or.inr ⟨⟨rfl, _, _, _, _, _, rfl⟩, hinvalid⟩

/-- The verdict on the same records is the same under all settings, on the command line and in the file: the
program succeeds under both of two, exactly when every record is valid, or fails under both because of invalid
records. -/
theorem exitCode_eq_of_validates [PatternEngine] (h : a.Validates w s inputs) (h' : a'.Validates w' s inputs) :
    ((a.run w).Succeeds ∧ (a'.run w').Succeeds ∨ (a.run w).FailsValidation ∧ (a'.run w').FailsValidation) ∧
      ((a.run w).Succeeds ↔ ∀ i ∈ inputs, ∀ record ∈ i.2, s.validate record = []) := by
  rcases h.run with ⟨hrun, hvalid⟩ | ⟨hrun, hinvalid⟩
  · rcases h'.run with ⟨hrun', -⟩ | ⟨-, hinvalid'⟩
    · exact ⟨Or.inl ⟨hrun, hrun'⟩, fun _ => hvalid, fun _ => hrun⟩
    · exact (hinvalid' hvalid).elim
  · rcases h'.run with ⟨-, hvalid'⟩ | ⟨hrun', -⟩
    · exact (hinvalid hvalid').elim
    · refine ⟨Or.inr ⟨hrun, hrun'⟩, fun hsucceeds => ?_, fun hvalid => (hinvalid hvalid).elim⟩
      have hcode := hrun.1
      rw [hsucceeds] at hcode
      cases hcode

/-- A command line that validates an input of two records without a field that is required. -/
def sampleLine (failFast : Bool) (maxErrors : Option Nat) : CommandLine :=
  ⟨0, false, none, none, false, .validate "s.json" ["b.json"] failFast maxErrors false⟩

theorem exitCode_eq_sampleLine : ((sampleLine false none).run Command.sampleSurroundings).FailsValidation ∧
    ((sampleLine true (some 1)).run Command.sampleSurroundings).FailsValidation := by
  have hs : readSchema Command.sampleSurroundings.files "s.json" = .ok _ := rfl
  have hvalidates : ∀ failFast maxErrors, (sampleLine failFast maxErrors).Validates Command.sampleSurroundings _
      [("b.json", [.object [], .object []])] := fun failFast maxErrors =>
    ⟨⟨_, rfl⟩, ⟨"s.json", failFast, maxErrors, false, hs, rfl⟩, List.forall_mem_singleton.2 rfl⟩
  obtain ⟨hverdict, hiff⟩ := exitCode_eq_of_validates (hvalidates false none) (hvalidates true (some 1))
  refine hverdict.resolve_left fun hsucceed => ?_
  have hvalid := hiff.1 hsucceed.1 _ List.mem_cons_self _ List.mem_cons_self
  exact List.cons_ne_nil _ _ hvalid

end CommandLine

end FieldRules
