/-
The cap on errors in a run over several inputs. A batch counts only the errors of its own input, so a run can
go on checking records when its errors have reached the cap. It does so exactly when it does not stop at the
first invalid record and its inputs overrun the cap: `runValidate_respectsCap_iff`.
-/
import FieldRules.Command.Program
import FieldRules.Proofs.Batch.Trace

namespace FieldRules

/-- An input that loads. -/
def Input.loaded (i : String × List Json) : Input :=
  ⟨i.1, .ok i.2⟩

/-! ## Traces of runs -/

/-- The number of errors of each record checked, input by input. -/
def tracesOf (files : List FileReport) : List Nat :=
  files.flatMap fun f => f.batch.trace

def RunReport.trace (r : RunReport) : List Nat :=
  tracesOf r.files

/-- Nothing is checked once the errors have reached the cap. -/
def RespectsCap (cap : Nat) (trace : List Nat) : Prop :=
  ∀ done rest, trace = done ++ rest → cap ≤ sumOf id done → rest = []

section
variable {cap : Nat} {trace : List Nat}

theorem respectsCap_of_lt (h : sumOf id trace < cap) : RespectsCap cap trace := by
  rintro done rest rfl hreached
  rw [sumOf_append] at h
  omega

/-- The record that brings the errors to the cap may be the last one. -/
theorem respectsCap_concat (h : sumOf id trace < cap) (k : Nat) : RespectsCap cap (trace ++ [k]) := by
  intro done rest heq hreached
  rcases List.eq_nil_or_concat rest with rfl | ⟨rest, k', rfl⟩
  · rfl
  · rw [List.concat_eq_append, ← List.append_assoc] at heq
    obtain rfl := List.append_inj_left' heq rfl
    rw [sumOf_append] at h
    omega

theorem respectsCap_append_of_zero {l : List Nat} (hcap : 0 < cap) (hl : sumOf id l = 0)
    (h : RespectsCap cap trace) : RespectsCap cap (l ++ trace) := by
  intro done rest heq hreached
  rcases List.append_eq_append_iff.1 heq with ⟨x, rfl, htrace⟩ | ⟨x, rfl, -⟩
  · rw [sumOf_append, hl, Nat.zero_add] at hreached
    exact h x rest htrace hreached
  · rw [sumOf_append] at hl
    omega

end

namespace Schema

variable {s : Schema} {c : BatchSettings} {cap collected : Nat} {record : Json} {done rest records : List Json}
  {before after files : List (List Json)}

/-! ## Inputs -/

/-- The record with which the errors of all inputs reach the cap is followed by another one: in a later input,
or in the same one, whose own errors stay below the cap up to there. -/
def Overruns (s : Schema) (cap : Nat) (files : List (List Json)) : Prop :=
  ∃ before done record rest after, files = before ++ (done ++ record :: rest) :: after ∧
    s.errorsIn (before.flatten ++ done) < cap ∧ cap ≤ s.errorsIn (before.flatten ++ done ++ [record]) ∧
    (after.flatten ≠ [] ∨ rest ≠ [] ∧ s.errorsIn (done ++ [record]) < cap)

/-- The records of one input never overrun the cap, with no errors in the inputs before it. -/
theorem not_overruns_concat (files : List (List Json)) (h : s.errorsIn files.flatten = 0) :
    ¬ s.Overruns cap (files ++ [records]) := by
  rintro ⟨before, done, record, rest, after, heq, hbelow, hreached, hmore⟩
  rw [List.append_assoc] at hreached
  -- the cap is reached in the last input, for there are no errors before
  have hlast : before = files ∧ after = [] := by
    rcases List.append_eq_append_iff.1 heq with ⟨b, rfl, hb⟩ | ⟨b, rfl, hb⟩
    · cases b with
      | nil => exact ⟨List.append_nil _, (List.cons_eq_cons.1 hb).2.symm⟩
      | cons x b => cases b <;> cases hb
    · cases b with
      | nil => exact ⟨(List.append_nil _).symm, (List.cons_eq_cons.1 hb).2⟩
      | cons x b =>
        obtain ⟨rfl, -⟩ := List.cons_eq_cons.1 hb
        have hsplit : (before ++ (done ++ record :: rest) :: b).flatten =
            before.flatten ++ (done ++ [record]) ++ (rest ++ b.flatten) := by simp
        rw [hsplit, errorsIn_append] at h
        omega
  obtain ⟨rfl, rfl⟩ := hlast
  rw [errorsIn_append, h, Nat.zero_add] at hreached
  rcases hmore with hafter | ⟨-, hown⟩
  · exact hafter rfl
  · exact Nat.not_lt.2 hreached hown

/-- The record with which errors reach the cap. -/
theorem exists_record_of_le (hless : collected < cap) (h : cap ≤ collected + s.errorsIn records) :
    ∃ done record rest, records = done ++ record :: rest ∧ collected + s.errorsIn done < cap ∧
      cap ≤ collected + s.errorsIn (done ++ [record]) := by
  induction records generalizing collected with
  | nil => exact (Nat.not_lt.2 h hless).elim
  | cons r records ih =>
    have hcons : ∀ l, s.errorsIn (r :: l) = s.errorsIn [r] + s.errorsIn l := errorsIn_append [r]
    by_cases hr : cap ≤ collected + s.errorsIn [r]
    · exact ⟨[], r, records, rfl, hless, hr⟩
    · rw [hcons, ← Nat.add_assoc] at h
      obtain ⟨done, record, rest, rfl, hbelow, hreached⟩ := ih (Nat.lt_of_not_le hr) h
      refine ⟨r :: done, record, rest, rfl, ?_, ?_⟩
      · rwa [hcons, ← Nat.add_assoc]
      · rwa [List.cons_append, hcons, ← Nat.add_assoc]

theorem exists_split_of_le (hless : collected < cap) (h : cap ≤ collected + s.errorsIn files.flatten) :
    ∃ before done record rest after, files = before ++ (done ++ record :: rest) :: after ∧
      collected + s.errorsIn (before.flatten ++ done) < cap ∧
      cap ≤ collected + s.errorsIn (before.flatten ++ done ++ [record]) := by
  induction files generalizing collected with
  | nil => exact (Nat.not_lt.2 h hless).elim
  | cons records files ih =>
    by_cases hrecords : cap ≤ collected + s.errorsIn records
    · obtain ⟨done, record, rest, rfl, hbelow, hreached⟩ := exists_record_of_le hless hrecords
      exact ⟨[], done, record, rest, files, rfl, hbelow, hreached⟩
    · rw [List.flatten_cons, errorsIn_append, ← Nat.add_assoc] at h
      obtain ⟨before, done, record, rest, after, rfl, hbelow, hreached⟩ := ih (Nat.lt_of_not_le hrecords) h
      refine ⟨records :: before, done, record, rest, after, rfl, ?_, ?_⟩
      · rwa [List.flatten_cons, List.append_assoc, errorsIn_append, ← Nat.add_assoc]
      · rwa [List.flatten_cons, List.append_assoc, List.append_assoc, errorsIn_append, ← List.append_assoc,
          ← Nat.add_assoc]

/-! ## Batches in a row -/

/-- The traces of the batches of all inputs. -/
def batchTraces (s : Schema) (c : BatchSettings) (files : List (List Json)) : List Nat :=
  files.flatMap fun records => (s.validateBatch c records).trace

theorem batchTraces_append (l l' : List (List Json)) :
    s.batchTraces c (l ++ l') = s.batchTraces c l ++ s.batchTraces c l' :=
  List.flatMap_append

theorem batchTraces_cons : s.batchTraces c (records :: files) =
    (s.validateBatch c records).trace ++ s.batchTraces c files :=
  List.flatMap_cons

theorem batchTraces_of_lt (hfail : c.failFast = false) (h : s.errorsIn files.flatten < c.maxErrors) :
    s.batchTraces c files = s.errorCounts files.flatten := by
  induction files with
  | nil => rfl
  | cons records files ih =>
    rw [List.flatten_cons, errorsIn_append] at h
    rw [batchTraces_cons, trace_of_lt hfail (by omega), ih (by omega), List.flatten_cons, errorCounts_append]

theorem trace_eq_nil_iff (hfail : c.failFast = false) (hcap : 0 < c.maxErrors) :
    (s.validateBatch c records).trace = [] ↔ records = [] := by
  rw [trace_validateBatch, errorCounts_eq_nil_iff, List.take_eq_nil_iff]
  refine ⟨fun h => ?_, Or.inr⟩
  by_contra hne
  have hfirst : 0 < (s.validateBatch c records).checked :=
    lt_checked_of_lt hfail hcap (List.length_pos_of_ne_nil hne)
  rcases h with hzero | hnil
  · omega
  · exact hne hnil

theorem batchTraces_eq_nil_iff (hfail : c.failFast = false) (hcap : 0 < c.maxErrors) :
    s.batchTraces c files = [] ↔ files.flatten = [] := by
  rw [batchTraces, List.flatMap_eq_nil_iff, List.flatten_eq_nil_iff]
  exact forall₂_congr fun records _ => trace_eq_nil_iff hfail hcap

/-- The trace goes up to the record with which the errors reach the cap, and what it tells behind it is
nothing exactly when the inputs do not overrun the cap there. -/
theorem batchTraces_of_split (record : Json) (rest : List Json) (after : List (List Json))
    (hfail : c.failFast = false) (hbelow : s.errorsIn (before.flatten ++ done) < c.maxErrors) :
    ∃ more, s.batchTraces c (before ++ (done ++ record :: rest) :: after) =
        s.errorCounts (before.flatten ++ done ++ [record]) ++ more ∧
      (more = [] ↔ ¬ (after.flatten ≠ [] ∨ rest ≠ [] ∧ s.errorsIn (done ++ [record]) < c.maxErrors)) := by
  rw [errorsIn_append] at hbelow
  have hdone : s.errorsIn done < c.maxErrors := by omega
  obtain ⟨more, htrace, hmore⟩ := trace_of_split record rest hfail hdone
  refine ⟨more ++ s.batchTraces c after, ?_, ?_⟩
  · rw [batchTraces_append, batchTraces_cons, batchTraces_of_lt hfail (by omega), htrace,
      List.append_assoc before.flatten, errorCounts_append before.flatten]
    simp only [List.append_assoc]
  · rw [List.append_eq_nil_iff, hmore, batchTraces_eq_nil_iff hfail (by omega), ← Nat.not_lt]
    tauto

/-- Batches in a row respect the cap exactly when their inputs do not overrun it. -/
theorem respectsCap_batchTraces_iff (hfail : c.failFast = false) (hcap : 0 < c.maxErrors) :
    RespectsCap c.maxErrors (s.batchTraces c files) ↔ ¬ s.Overruns c.maxErrors files := by
  constructor
  · rintro hrespects ⟨before, done, record, rest, after, rfl, hbelow, hreached, hmore⟩
    obtain ⟨more, htrace, hnil⟩ := batchTraces_of_split record rest after hfail hbelow
    exact hnil.1 (hrespects _ _ htrace (by rwa [sumOf_errorCounts])) hmore
  · intro hoverruns
    -- either the errors never reach the cap, or the trace ends with the record that brings them there
    by_cases hall : s.errorsIn files.flatten < c.maxErrors
    · refine respectsCap_of_lt ?_
      rwa [batchTraces_of_lt hfail hall, sumOf_errorCounts]
    · have hreaches : c.maxErrors ≤ 0 + s.errorsIn files.flatten := by omega
      obtain ⟨before, done, record, rest, after, rfl, hbelow, hreached⟩ := exists_split_of_le hcap hreaches
      rw [Nat.zero_add] at hbelow hreached
      obtain ⟨more, htrace, hnil⟩ := batchTraces_of_split record rest after hfail hbelow
      have hlast : more = [] :=
        hnil.2 fun hmore => hoverruns ⟨before, done, record, rest, after, rfl, hbelow, hreached, hmore⟩
      rw [htrace, hlast, List.append_nil, errorCounts_append]
      exact respectsCap_concat (by rwa [sumOf_errorCounts]) _

/-! ## Fail-fast -/

theorem errorsIn_eq_zero (h : ∀ r ∈ records, s.isValid r = true) : s.errorsIn records = 0 := by
  induction records with
  | nil => rfl
  | cons r rest ih =>
    have hr : s.errorsIn [r] = 0 := congrArg List.length (isValid_iff.1 (h r List.mem_cons_self))
    rw [← List.singleton_append, errorsIn_append, hr, ih fun r' hr' => h r' (List.mem_cons_of_mem r hr')]

theorem sumOf_trace_of_isValid (h : (s.validateBatch c records).isValid = true) :
    sumOf id (s.validateBatch c records).trace = 0 := by
  rw [validateBatch_isValid, List.all_eq_true] at h
  rw [trace_validateBatch, sumOf_errorCounts]
  exact errorsIn_eq_zero fun r hr => h r (List.mem_of_mem_take hr)

/-- A batch that stops at its first invalid record respects the cap, since no error comes before that one. -/
theorem respectsCap_trace_of_failFast (hfail : c.failFast = true) (hcap : 0 < c.maxErrors) :
    RespectsCap c.maxErrors (s.validateBatch c records).trace := by
  have hdescribes := validateBatch_describes s c records
  by_cases hstop : ∃ i, s.StopsFirstAt c 0 records i
  · obtain ⟨i, hi⟩ := hstop
    obtain ⟨⟨record, hrecord, -⟩, hfirst⟩ := id hi
    -- an invalid record before the stopping one would be a stopping record itself
    have hvalid : ∀ r ∈ records.take i, s.isValid r = true := by
      intro r hr
      obtain ⟨j, hj, rfl⟩ := List.mem_take_iff_getElem.1 hr
      by_contra hinvalid
      refine hfirst j (by omega) ⟨records[j], List.getElem?_eq_getElem _, fun hnil => ?_, Or.inl hfail⟩
      exact hinvalid (isValid_iff.2 hnil)
    rw [trace_validateBatch, hdescribes.checked_of_stop i hi, List.take_add_one, hrecord, errorCounts_append]
    refine respectsCap_concat ?_ _
    rwa [sumOf_errorCounts, errorsIn_eq_zero hvalid]
  · have hnone : (s.validateBatch c records).isValid = true := by
      rw [validateBatch_isValid, List.all_eq_true]
      intro r hr
      by_contra hinvalid
      obtain ⟨j, hj, rfl⟩ := List.getElem_of_mem hr
      have hstops : s.StopsAt c 0 records j :=
        ⟨records[j], List.getElem?_eq_getElem _, fun hnil => hinvalid (isValid_iff.2 hnil), Or.inl hfail⟩
      exact hstop (exists_stopsFirstAt hstops)
    refine respectsCap_of_lt ?_
    rwa [sumOf_trace_of_isValid hnone]

/-! ## Runs -/

/-- The report on an input that loads. -/
def reportOn (s : Schema) (c : BatchSettings) (echo : Bool) (i : String × List Json) : FileReport :=
  .ofRecords i.1 i.2 (s.validateBatch c i.2) echo

section
variable {echo : Bool} {i : String × List Json} {inputs : List Input}

theorem validateInputs_of_stop (h : (c.failFast && !(s.validateBatch c i.2).isValid) = true) :
    s.validateInputs c echo (.loaded i :: inputs) = .ok ⟨[s.reportOn c echo i], true⟩ :=
  if_pos h

theorem validateInputs_of_not_stop (h : (c.failFast && !(s.validateBatch c i.2).isValid) = false) :
    s.validateInputs c echo (.loaded i :: inputs) =
      s.validateInputs c echo inputs >>= fun run => .ok ⟨s.reportOn c echo i :: run.files, run.stopped⟩ :=
  if_neg (Bool.eq_false_iff.1 h)

end

theorem validateInputs_of_not_failFast (hfail : c.failFast = false) (echo : Bool)
    (inputs : List (String × List Json)) :
    s.validateInputs c echo (inputs.map Input.loaded) = .ok ⟨inputs.map (s.reportOn c echo), false⟩ := by
  induction inputs with
  | nil => rfl
  | cons i inputs ih =>
    rw [List.map_cons, validateInputs_of_not_stop (by rw [hfail, Bool.false_and]), ih]
    rfl

theorem validateInputs_of_failFast (hfail : c.failFast = true) (hcap : 0 < c.maxErrors) (echo : Bool)
    (inputs : List (String × List Json)) : ∃ run, s.validateInputs c echo (inputs.map Input.loaded) = .ok run ∧
      RespectsCap c.maxErrors (tracesOf run.files) := by
  induction inputs with
  | nil => exact ⟨⟨[], false⟩, rfl, respectsCap_of_lt hcap⟩
  | cons i inputs ih =>
    rw [List.map_cons]
    cases hvalid : (s.validateBatch c i.2).isValid with
    | false =>
      refine ⟨_, validateInputs_of_stop (by rw [hfail, hvalid]; rfl), ?_⟩
      show RespectsCap c.maxErrors ((s.validateBatch c i.2).trace ++ [])
      rw [List.append_nil]
      exact respectsCap_trace_of_failFast hfail hcap
    | true =>
      obtain ⟨run, hrun, hrespects⟩ := ih
      refine ⟨⟨s.reportOn c echo i :: run.files, run.stopped⟩, ?_, ?_⟩
      · rw [validateInputs_of_not_stop (by rw [hfail, hvalid]; rfl), hrun]
        rfl
      · exact respectsCap_append_of_zero hcap (sumOf_trace_of_isValid hvalid) hrespects

/-- Inputs that load are all reported on up to the end of the run, which respects the cap exactly when it is to
stop at the first invalid record or the inputs do not overrun the cap. -/
theorem validateInputs_respectsCap_iff (hcap : 0 < c.maxErrors) (echo : Bool)
    (inputs : List (String × List Json)) : ∃ run, s.validateInputs c echo (inputs.map Input.loaded) = .ok run ∧
      (RespectsCap c.maxErrors (tracesOf run.files) ↔
        c.failFast = true ∨ ¬ s.Overruns c.maxErrors (inputs.map Prod.snd)) := by
  cases hfail : c.failFast with
  | true =>
    obtain ⟨run, hrun, hrespects⟩ := validateInputs_of_failFast hfail hcap echo inputs
    exact ⟨run, hrun, fun _ => Or.inl rfl, fun _ => hrespects⟩
  | false =>
    refine ⟨_, validateInputs_of_not_failFast hfail echo inputs, ?_⟩
    have htraces : tracesOf (inputs.map (s.reportOn c echo)) = s.batchTraces c (inputs.map Prod.snd) := by
      rw [tracesOf, batchTraces, List.flatMap_map, List.flatMap_map]
      rfl
    rw [htraces, respectsCap_batchTraces_iff hfail hcap]
    exact ⟨Or.inr, fun h => h.resolve_left Bool.false_ne_true⟩

end Schema

/-! ## The command -/

def Message.runReport? : Message → Option RunReport
  | .runReport r => some r
  | _ => none

/-- The run reports that a command writes. -/
def CommandRun.reports (r : CommandRun) : List RunReport :=
  r.messages.filterMap Message.runReport?

namespace Command

variable {w : Surroundings} {c : BatchSettings} {path : String} {s : Schema}
  {inputs : List (String × List Json)}

/-- When the schema and the inputs load, the one report written is that of the run. -/
theorem reports_runValidate [PatternEngine] (hs : readSchema w.files path = .ok s)
    (hinputs : ∀ i ∈ inputs, readRecords w.files i.1 = .ok i.2) (echo : Bool) {run : FileRun}
    (hrun : s.validateInputs c echo (inputs.map Input.loaded) = .ok run) :
    (runValidate w c path (inputs.map Prod.fst) echo).reports = [⟨path, w.now, run.files⟩] := by
  have hloaded : (inputs.map Prod.fst).map (fun p => (⟨p, readRecords w.files p⟩ : Input)) =
      inputs.map Input.loaded := by
    rw [List.map_map]
    refine List.map_congr_left fun i hi => ?_
    show (⟨i.1, readRecords w.files i.1⟩ : Input) = ⟨i.1, .ok i.2⟩
    rw [hinputs i hi]
  unfold runValidate
  rw [hs]
  simp only [CommandRun.after, hloaded, hrun]
  cases run.stopped <;> cases RunReport.verdict ⟨path, w.now, run.files⟩ <;> rfl

/-- A run over inputs that load writes one report. It respects the cap exactly when the run is to stop at the
first invalid record or the inputs do not overrun the cap. -/
theorem runValidate_respectsCap_iff [PatternEngine] (hs : readSchema w.files path = .ok s)
    (hinputs : ∀ i ∈ inputs, readRecords w.files i.1 = .ok i.2) (hcap : 0 < c.maxErrors) (echo : Bool) :
    ∃ report, (runValidate w c path (inputs.map Prod.fst) echo).reports = [report] ∧
      (RespectsCap c.maxErrors report.trace ↔
        c.failFast = true ∨ ¬ s.Overruns c.maxErrors (inputs.map Prod.snd)) := by
  obtain ⟨run, hrun, hiff⟩ := Schema.validateInputs_respectsCap_iff (s := s) hcap echo inputs
  exact ⟨⟨path, w.now, run.files⟩, reports_runValidate hs hinputs echo hrun, hiff⟩

/-- A schema with a required field, inputs of one, of two and of three records without that field, and an input of
a record with it. -/
def sampleFiles : Files
  | "s.json" => .text "\x7b\"f\":\x7b\"type\":[\"string\",\"t\"],\"required\":[\"r\"]\x7d\x7d"
  | "a.json" => .text "[\x7b\x7d]"
  | "b.json" => .text "[\x7b\x7d,\x7b\x7d]"
  | "d.json" => .text "[\x7b\"f\":\"x\"\x7d]"
  | "e.json" => .text "[\x7b\x7d,\x7b\x7d,\x7b\x7d]"
  | _ => .missing

def sampleSurroundings : Surroundings :=
  ⟨fun _ => none, sampleFiles, "now", false⟩

/-- The first input has no error, and the second one is left at the cap, before its third record. -/
theorem runValidate_sampleFiles : ∃ report,
    (runValidate sampleSurroundings ⟨false, 2⟩ "s.json" ["d.json", "e.json"] false).reports = [report] ∧
      report.trace = [0, 1, 1] ∧ RespectsCap 2 report.trace := by
  have hs : readSchema sampleSurroundings.files "s.json" = .ok _ := rfl
  have hinputs : ∀ i ∈ [("d.json", [.object [("f", .text "x")]]), ("e.json", [Json.object [], .object [], .object []])],
      readRecords sampleSurroundings.files i.1 = .ok i.2 :=
    List.forall_mem_cons.2 ⟨rfl, List.forall_mem_singleton.2 rfl⟩
  obtain ⟨report, hreports, hiff⟩ := runValidate_respectsCap_iff (c := ⟨false, 2⟩) hs hinputs (by decide) false
  have htrace : report.trace = [0, 1, 1] := by
    obtain rfl := List.singleton_inj.1 hreports
    rfl
  exact ⟨report, hreports, htrace, hiff.2 (Or.inr (Schema.not_overruns_concat [[_]] rfl))⟩

/-- The first input has one error and the second one two, all of which are found in spite of a cap of two. -/
theorem runValidate_sampleFiles_overrun : ∃ report,
    (runValidate sampleSurroundings ⟨false, 2⟩ "s.json" ["a.json", "b.json"] false).reports = [report] ∧
      report.trace = [1, 1, 1] ∧ ¬ RespectsCap 2 report.trace :=
  ⟨_, rfl, rfl, fun h => List.cons_ne_nil 1 [] (h [1, 1] [1] rfl (by decide))⟩

end Command

end FieldRules
