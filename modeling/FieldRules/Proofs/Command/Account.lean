/-
The account of a validation run. The inputs taken are those up to the first one that does not load or, when the
run is to stop at once, the first one with an invalid record. `Schema.Takes` says input by input what a run takes
and how it comes out. What is reported, which error is left and what is never read are inductions on it, and
`run_validate_accounts` puts them together.
-/
import FieldRules.Proofs.Command.Cap
import FieldRules.Proofs.Traversal

namespace FieldRules

theorem mem_getLast?_singleton_iff {α : Type} {a b : α} : a ∈ [b].getLast? ↔ b = a :=
  Option.mem_some_iff

/-! ## Inputs -/

/-- The records of a document: the items of a list, or one object. -/
inductive Json.HasRecords : Json → List Json → Prop where
  | items (records : List Json) : HasRecords (.list records) records
  | single (members : List (String × Json)) : HasRecords (.object members) [.object members]

section
variable {files files' : Files} {path : String} {records : List Json}

theorem recordsOf_eq_ok_iff {v : Json} : recordsOf path v = .ok records ↔ v.HasRecords records := by
  constructor
  · intro h
    cases v with
    | list items => cases h; exact .items _
    | object members => cases h; exact .single _
    | _ => cases h
  · rintro (_ | _) <;> rfl

theorem readRecords_eq_ok_iff : readRecords files path = .ok records ↔
    ∃ document, readDocument files path = .ok document ∧ document.HasRecords records := by
  rw [readRecords, bind_eq_ok_iff]
  exact exists_congr fun _ => and_congr_right fun _ => recordsOf_eq_ok_iff

theorem readDocument_congr (h : files' path = files path) : readDocument files' path = readDocument files path := by
  unfold readDocument
  rw [h]

theorem readSchema_congr [PatternEngine] (h : files' path = files path) :
    readSchema files' path = readSchema files path := by
  unfold readSchema
  rw [readDocument_congr h]

theorem readRecords_congr (h : files' path = files path) : readRecords files' path = readRecords files path := by
  unfold readRecords
  rw [readDocument_congr h]

end

/-- The input under a path. -/
def Input.under (files : Files) (path : String) : Input :=
  ⟨path, readRecords files path⟩

/-! ## The inputs taken -/

namespace Schema

/-- Whether a run ends with the input under a path: one that does not load or, when the run is to stop at once,
one with an invalid record. -/
def endsAt (s : Schema) (failFast : Bool) (files : Files) (path : String) : Bool :=
  match readRecords files path with
  | .error _ => true
  | .ok records => failFast && records.any fun r => !s.isValid r

/-- The inputs up to and including the first one that a run ends with, and all of them if there is none. -/
def taken (s : Schema) (failFast : Bool) (files : Files) (inputs : List String) : List String :=
  inputs.take (inputs.findIdx (s.endsAt failFast files) + 1)

/-- The inputs that a run takes, and how it comes out. -/
inductive Takes (s : Schema) (c : BatchSettings) (echo : Bool) (files : Files) :
    List String → List String → Except CommandError FileRun → Prop where
  | nil : Takes s c echo files [] [] (.ok ⟨[], false⟩)
  | unloaded {path : String} {e : CommandError} (rest : List String) (hload : readRecords files path = .error e) :
    Takes s c echo files (path :: rest) [path] (.error e)
  | stopped {path : String} {records : List Json} (rest : List String) (hload : readRecords files path = .ok records)
      (hfail : c.failFast = true) (hinvalid : (s.validateBatch c records).isValid = false) :
    Takes s c echo files (path :: rest) [path] (.ok ⟨[s.reportOn c echo (path, records)], true⟩)
  | next {path : String} {records : List Json} {rest taken : List String} {outcome : Except CommandError FileRun}
      (hload : readRecords files path = .ok records)
      (hgoes : c.failFast = true → (s.validateBatch c records).isValid = true)
      (hrest : Takes s c echo files rest taken outcome) :
    Takes s c echo files (path :: rest) (path :: taken)
      (outcome.map fun run => ⟨s.reportOn c echo (path, records) :: run.files, run.stopped⟩)

variable {s : Schema} {c : BatchSettings} {echo : Bool} {files files' : Files} {path : String}
  {records : List Json} {inputs taken : List String} {outcome : Except CommandError FileRun} {run : FileRun}

theorem taken_of_end {failFast : Bool} (h : s.endsAt failFast files path = true) :
    s.taken failFast files (path :: inputs) = [path] := by
  rw [Schema.taken, List.findIdx_cons, h]
  rfl

theorem taken_of_not_end {failFast : Bool} (h : s.endsAt failFast files path = false) :
    s.taken failFast files (path :: inputs) = path :: s.taken failFast files inputs := by
  rw [Schema.taken, List.findIdx_cons, h]
  rfl

theorem endsAt_of_error {failFast : Bool} {e : CommandError} (h : readRecords files path = .error e) :
    s.endsAt failFast files path = true := by
  rw [endsAt, h]

theorem endsAt_of_ok (c : BatchSettings) (h : readRecords files path = .ok records) :
    s.endsAt c.failFast files path = (c.failFast && !(s.validateBatch c records).isValid) := by
  rw [endsAt, h, validateBatch_isValid, List.not_all_eq_any_not]

theorem under_eq_loaded (h : readRecords files path = .ok records) :
    Input.under files path = .loaded (path, records) := by
  rw [Input.under, h, Input.loaded]

/-- A run takes the inputs up to the one it ends with. -/
theorem takes_validateInputs (s : Schema) (c : BatchSettings) (echo : Bool) (files : Files) (inputs : List String) :
    s.Takes c echo files inputs (s.taken c.failFast files inputs)
      (s.validateInputs c echo (inputs.map (Input.under files))) := by
  induction inputs with
  | nil => exact .nil
  | cons path rest ih =>
    rw [List.map_cons]
    cases hload : readRecords files path with
    | error e =>
      rw [taken_of_end (endsAt_of_error hload), Input.under, hload]
      exact .unloaded rest hload
    | ok records =>
      rw [under_eq_loaded hload]
      cases hstop : c.failFast && !(s.validateBatch c records).isValid with
      | true =>
        rw [taken_of_end ((endsAt_of_ok c hload).trans hstop), validateInputs_of_stop hstop]
        rw [Bool.and_eq_true, Bool.not_eq_true'] at hstop
        exact .stopped rest hload hstop.1 hstop.2
      | false =>
        rw [taken_of_not_end ((endsAt_of_ok c hload).trans hstop), validateInputs_of_not_stop hstop]
        refine .next hload (fun hfail => ?_) ih
        rwa [hfail, Bool.true_and, Bool.not_eq_false'] at hstop

namespace Takes

/-- The inputs and what is taken of them determine how a run comes out. -/
theorem eq_validateInputs (h : s.Takes c echo files inputs taken outcome) :
    s.validateInputs c echo (inputs.map (Input.under files)) = outcome := by
  induction h with
  | nil => rfl
  | unloaded rest hload => rw [List.map_cons, Input.under, hload]; rfl
  | stopped rest hload hfail hinvalid =>
    rw [List.map_cons, under_eq_loaded hload]
    exact validateInputs_of_stop (by rw [hfail, hinvalid]; rfl)
  | @next path records rest taken outcome hload hgoes _ ih =>
    have hstop : (c.failFast && !(s.validateBatch c records).isValid) = false := by
      cases hfail : c.failFast with
      | false => rfl
      | true => rw [hgoes hfail]; rfl
    rw [List.map_cons, under_eq_loaded hload, validateInputs_of_not_stop hstop, ih]
    rfl

/-- A run reads the inputs taken and no others. -/
theorem congr (h : s.Takes c echo files inputs taken outcome) (hsame : ∀ path ∈ taken, files' path = files path) :
    s.Takes c echo files' inputs taken outcome := by
  induction h with
  | nil => exact .nil
  | unloaded rest hload =>
    exact .unloaded rest ((readRecords_congr (hsame _ List.mem_cons_self)).trans hload)
  | stopped rest hload hfail hinvalid =>
    exact .stopped rest ((readRecords_congr (hsame _ List.mem_cons_self)).trans hload) hfail hinvalid
  | next hload hgoes _ ih =>
    exact .next ((readRecords_congr (hsame _ List.mem_cons_self)).trans hload) hgoes
      (ih fun path hpath => hsame path (List.mem_cons_of_mem _ hpath))

/-- A run fails with the error of the last input taken. -/
theorem eq_error (h : s.Takes c echo files inputs taken outcome) (hlast : path ∈ taken.getLast?) {e : CommandError}
    (hload : readRecords files path = .error e) : outcome = .error e := by
  induction h with
  | nil => cases hlast
  | unloaded rest hload' =>
    rw [mem_getLast?_singleton_iff.1 hlast, hload] at hload'
    cases hload'
    rfl
  | stopped rest hload' =>
    rw [mem_getLast?_singleton_iff.1 hlast, hload] at hload'
    cases hload'
  | @next first _ _ taken _ hload' _ _ ih =>
    cases taken with
    | nil =>
      rw [mem_getLast?_singleton_iff.1 hlast, hload] at hload'
      cases hload'
    | cons second taken =>
      rw [List.getLast?_cons_cons] at hlast
      rw [ih hlast]
      rfl

/-- A run whose last input loads comes to its end. -/
theorem exists_run (h : s.Takes c echo files inputs taken outcome)
    (hloads : ∀ path ∈ taken.getLast?, ∃ records, readRecords files path = .ok records) :
    ∃ run, outcome = .ok run := by
  induction h with
  | nil => exact ⟨_, rfl⟩
  | @unloaded path _ rest hload =>
    obtain ⟨records, hok⟩ := hloads path (mem_getLast?_singleton_iff.2 rfl)
    rw [hload] at hok
    cases hok
  | stopped => exact ⟨_, rfl⟩
  | @next first _ _ taken _ _ _ hrest ih =>
    have hrun : ∃ run, _ = Except.ok run := ih fun path hlast => hloads path <| by
      cases taken with
      | nil => cases hlast
      | cons second taken => rwa [List.getLast?_cons_cons]
    obtain ⟨run, rfl⟩ := hrun
    exact ⟨_, rfl⟩

/-- A run reports on the inputs taken, in order. -/
theorem forall₂ (h : s.Takes c echo files inputs taken outcome) (hrun : outcome = .ok run) :
    List.Forall₂ (fun path file => ∃ records, readRecords files path = .ok records ∧
      file = s.reportOn c echo (path, records)) taken run.files := by
  induction h generalizing run with
  | nil => cases hrun; exact .nil
  | unloaded => cases hrun
  | stopped rest hload => cases hrun; exact .cons ⟨_, hload, rfl⟩ .nil
  | next hload _ _ ih =>
    obtain ⟨run, rfl, rfl⟩ := map_eq_ok_iff.1 hrun
    exact .cons ⟨_, hload, rfl⟩ (ih rfl)

end Takes

/-! ## Invalid records of a run that is to stop at once -/

theorem runBatch_invalid_length_le (hfail : c.failFast = true) (index collected : Nat) (records : List Json) :
    (s.runBatch c index collected records).2.length ≤ 1 := by
  induction records generalizing index collected with
  | nil => exact Nat.zero_le 1
  | cons record rest ih =>
    by_cases hstop : s.StopsAt c collected (record :: rest) 0
    · rw [runBatch_of_stop hstop]
      exact Nat.le.intro (length_invalidFrom index)
    · have hvalid : s.isValid record = true := by
        by_contra hinvalid
        exact hstop (stopsAt_zero_iff.2
          ⟨fun hnil => hinvalid (isValid_iff.2 hnil), BatchSettings.stops_iff.2 (Or.inl hfail)⟩)
      rw [runBatch_of_not_stop hstop, invalidFrom_of_valid hvalid]
      exact ih (index + 1) _

/-- A run that is to stop at once reports one invalid record at most. -/
theorem Takes.invalid_length_le (h : s.Takes c echo files inputs taken outcome) (hrun : outcome = .ok run)
    (hfail : c.failFast = true) : (run.files.flatMap fun f => f.batch.invalid).length ≤ 1 := by
  induction h generalizing run with
  | nil => cases hrun; exact Nat.zero_le 1
  | unloaded => cases hrun
  | stopped rest hload =>
    cases hrun
    rw [List.flatMap_singleton]
    exact runBatch_invalid_length_le hfail 0 0 _
  | @next path records _ _ _ hload hgoes _ ih =>
    obtain ⟨run, rfl, rfl⟩ := map_eq_ok_iff.1 hrun
    have hnone : (s.reportOn c echo (path, records)).batch.invalid = [] := List.isEmpty_iff.1 (hgoes hfail)
    rw [List.flatMap_cons, hnone]
    exact ih rfl

end Schema

/-! ## The command -/

namespace RunReport

variable {r : RunReport}

theorem isValid_eq_true_iff : r.isValid = true ↔ ∀ f ∈ r.files, f.batch.invalid = [] := by
  rw [isValid, List.all_eq_true]
  exact forall₂_congr fun _ _ => List.isEmpty_iff

theorem verdict_of_valid (h : ∀ f ∈ r.files, f.batch.invalid = []) : r.verdict = .ok () := by
  rw [verdict, isValid_eq_true_iff.2 h]
  rfl

theorem verdict_of_invalid (h : ∃ f ∈ r.files, f.batch.invalid ≠ []) :
    r.verdict = .error (.validationFailed (sumOf (fun f => f.batch.invalid.length) r.files)
      (sumOf (fun f => f.batch.checked) r.files)) := by
  have hinvalid : r.isValid = false := by
    rw [Bool.eq_false_iff, Ne, isValid_eq_true_iff]
    push Not
    exact h
  rw [verdict, hinvalid]
  rfl

end RunReport

namespace Command

variable {w : Surroundings} {c : BatchSettings} {schema : String} {s : Schema} {inputs : List String} {echo : Bool}

theorem runValidate_of_error [PatternEngine] (hs : readSchema w.files schema = .ok s) {e : CommandError}
    (h : s.validateInputs c echo (inputs.map (Input.under w.files)) = .error e) :
    (runValidate w c schema inputs echo).result = .error e ∧ (runValidate w c schema inputs echo).reports = [] := by
  have hinputs : s.validateInputs c echo (inputs.map fun path => ⟨path, readRecords w.files path⟩) = .error e := h
  unfold runValidate
  rw [hs]
  simp only [CommandRun.after, hinputs]
  exact ⟨trivial, rfl⟩

theorem runValidate_of_ok [PatternEngine] (hs : readSchema w.files schema = .ok s) {run : FileRun}
    (h : s.validateInputs c echo (inputs.map (Input.under w.files)) = .ok run) :
    (runValidate w c schema inputs echo).result = RunReport.verdict ⟨schema, w.now, run.files⟩ ∧
      (runValidate w c schema inputs echo).reports = [⟨schema, w.now, run.files⟩] := by
  have hinputs : s.validateInputs c echo (inputs.map fun path => ⟨path, readRecords w.files path⟩) = .ok run := h
  unfold runValidate
  rw [hs]
  simp only [CommandRun.after, hinputs]
  cases run.stopped <;> cases RunReport.verdict ⟨schema, w.now, run.files⟩ <;> exact ⟨rfl, rfl⟩

/-- What a file report says of the input under a path. -/
structure ReportsOn (s : Schema) (c : BatchSettings) (files : Files) (path : String) (file : FileReport) : Prop where
  path_eq : file.path = path
  batch_eq : ∃ document records, readDocument files path = .ok document ∧ document.HasRecords records ∧
    file.batch = s.validateBatch c records

/-- A run that comes to its report. -/
structure Completes (r : CommandRun) (s : Schema) (c : BatchSettings) (files : Files) (taken : List String)
    (report : RunReport) : Prop where
  reports_eq : r.reports = [report]
  reportsOn : List.Forall₂ (ReportsOn s c files) taken report.files
  length_le : c.failFast = true → (report.files.flatMap fun f => f.batch.invalid).length ≤ 1
  result_of_invalid : (∃ f ∈ report.files, f.batch.invalid ≠ []) →
    r.result = .error (.validationFailed (sumOf (fun f => f.batch.invalid.length) report.files)
      (sumOf (fun f => f.batch.checked) report.files))
  result_of_valid : (∀ f ∈ report.files, f.batch.invalid = []) → r.result = .ok ()

/-- A run over the inputs taken either fails with the error of the last one, or comes to its report. -/
structure Accounts (r : CommandRun) (s : Schema) (c : BatchSettings) (files : Files) (taken : List String) :
    Prop where
  of_unloaded : ∀ path ∈ taken.getLast?, ∀ e, readRecords files path = .error e →
    r.result = .error e ∧ r.reports = []
  of_loaded : (∀ path ∈ taken.getLast?, ∃ records, readRecords files path = .ok records) →
    ∃ report, Completes r s c files taken report

theorem runValidate_accounts [PatternEngine] (hs : readSchema w.files schema = .ok s) :
    Accounts (runValidate w c schema inputs echo) s c w.files (s.taken c.failFast w.files inputs) := by
  have htakes := s.takes_validateInputs c echo w.files inputs
  refine ⟨fun path hlast e hload => runValidate_of_error hs (htakes.eq_error hlast hload), fun hloads => ?_⟩
  obtain ⟨run, hrun⟩ := htakes.exists_run hloads
  obtain ⟨hresult, hreports⟩ := runValidate_of_ok hs hrun
  refine ⟨⟨schema, w.now, run.files⟩, hreports, ?_, htakes.invalid_length_le hrun, fun hinvalid => ?_,
    fun hvalid => ?_⟩
  · refine (htakes.forall₂ hrun).imp ?_
    rintro path file ⟨records, hload, rfl⟩
    obtain ⟨document, hdocument, hrecords⟩ := readRecords_eq_ok_iff.1 hload
    exact ⟨rfl, document, records, hdocument, hrecords, rfl⟩
  · rw [hresult, RunReport.verdict_of_invalid hinvalid]
  · rw [hresult, RunReport.verdict_of_valid hvalid]

/-- What stands under paths that are not taken does not matter. -/
theorem runValidate_congr [PatternEngine] (hs : readSchema w.files schema = .ok s) {files' : Files}
    (hschema : files' schema = w.files schema)
    (hsame : ∀ path ∈ s.taken c.failFast w.files inputs, files' path = w.files path) :
    runValidate { w with files := files' } c schema inputs echo = runValidate w c schema inputs echo := by
  have hrun : s.validateInputs c echo (inputs.map fun path => ⟨path, readRecords files' path⟩) =
      s.validateInputs c echo (inputs.map fun path => ⟨path, readRecords w.files path⟩) :=
    ((s.takes_validateInputs c echo w.files inputs).congr hsame).eq_validateInputs
  unfold runValidate
  rw [readSchema_congr hschema, hs]
  simp only [CommandRun.after, hrun]

/-- The account of a run of the command. Its settings are those of the command line over those of the file. It
takes the inputs up to the one it ends with, and is the same whatever stands under other paths. -/
theorem run_validate_accounts [PatternEngine] (hs : readSchema w.files schema = .ok s) (settings : Settings)
    (console : Console) (inputs : List String) (failFast : Bool) (maxErrors : Option Nat) (echo : Bool) :
    let c : BatchSettings :=
      ⟨failFast || settings.validation.failFast, maxErrors.getD settings.validation.maxErrors⟩
    let taken := s.taken c.failFast w.files inputs
    let command := Command.validate schema inputs failFast maxErrors echo
    let r := runValidate w c schema inputs echo
    command.run w settings console = (console.writeAll r.messages, r.result) ∧
      Accounts r s c w.files taken ∧
      ∀ files', files' schema = w.files schema → (∀ path ∈ taken, files' path = w.files path) →
        command.run { w with files := files' } settings console = command.run w settings console := by
  intro c taken command r
  refine ⟨rfl, runValidate_accounts hs, fun files' hschema hsame => ?_⟩
  have hrun : runValidate { w with files := files' } c schema inputs echo = r := runValidate_congr hs hschema hsame
  show (console.writeAll (runValidate { w with files := files' } c schema inputs echo).messages,
    (runValidate { w with files := files' } c schema inputs echo).result) = _
  rw [hrun]
  rfl

/-- A run that is to stop at once takes the first input alone, so it comes to its report although the second one
is missing. -/
theorem run_validate_sampleFiles : ∃ s, readSchema sampleFiles "s.json" = .ok s ∧
    s.taken true sampleFiles ["b.json", "c.json"] = ["b.json"] ∧
    Accounts (runValidate sampleSurroundings ⟨true, 0⟩ "s.json" ["b.json", "c.json"] false) s ⟨true, 0⟩ sampleFiles
      ["b.json"] :=
  ⟨_, rfl, rfl, (run_validate_accounts (w := sampleSurroundings) rfl .standard ⟨.json, false, false⟩
    ["b.json", "c.json"] true none false).2.1⟩

end Command

end FieldRules
