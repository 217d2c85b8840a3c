/-
The invalid records shown again. A batch reports on records by position, and a position in the part that is checked
is one in the whole list, so every report has the record that it is on and the report for people finds it:
`echoes_lineUp`. There the record stands as a glance at it shows it, with its secrets masked (`Glimpse`).
-/
import FieldRules.Proofs.Command.Account
import FieldRules.Proofs.Report.Glance

namespace FieldRules

/-! ## The records that reports are on -/

namespace Schema

variable {s : Schema} {c : BatchSettings} {records : List Json} {r : RecordReport}

theorem mem_invalidFrom_iff : r ∈ s.invalidFrom 0 records ↔
    ∃ record, records[r.index]? = some record ∧ s.isValid record = false ∧ r.errors = s.validate record := by
  rw [invalidFrom, List.mem_filterMap]
  constructor
  · rintro ⟨⟨record, i⟩, hmem, heq⟩
    rw [List.mk_mem_zipIdx_iff_getElem?] at hmem
    rw [Option.ite_none_left_eq_some] at heq
    obtain ⟨hinvalid, heq⟩ := heq
    cases heq
    exact ⟨record, hmem, Bool.eq_false_iff.2 hinvalid, rfl⟩
  · rintro ⟨record, hat, hinvalid, herrors⟩
    refine ⟨(record, r.index), List.mk_mem_zipIdx_iff_getElem?.2 hat, ?_⟩
    dsimp only
    rw [if_neg (Bool.eq_false_iff.1 hinvalid), ← herrors]

/-- A batch reports on the invalid ones of the records that it checks, with their errors. -/
theorem mem_validateBatch_invalid_iff : r ∈ (s.validateBatch c records).invalid ↔
    r.index < (s.validateBatch c records).checked ∧
      ∃ record, records[r.index]? = some record ∧ s.isValid record = false ∧ r.errors = s.validate record := by
  -- a record keeps its position when the list is cut behind those checked
  rw [(validateBatch_describes s c records).invalid_eq, mem_invalidFrom_iff, List.getElem?_take]
  split
  · next hlt => exact (and_iff_right hlt).symm
  · next hge => simp [hge]

end Schema

/-! ## Echoes -/

/-- An echo shows the record that a report is on, with its secrets masked. -/
structure Echo.Shows (records : List Json) (r : RecordReport) (e : Echo) : Prop where
  index_eq : e.index = r.index
  record_eq : ∃ record, records[r.index]? = some record ∧ e.record = Redaction.redact record

/-- The lines on an invalid record: its position, its errors and the line for the record itself. -/
def IsBlock (records : List Json) (r : RecordReport) (block : List String) : Prop :=
  ∃ record line, records[r.index]? = some record ∧ Glimpse (Redaction.redact record) line ∧
    block = ("  Record " ++ toString r.index ++ ":") :: errorLines r ++ ["    Input: " ++ line]

/-- What is said of an input that is not checked to its end. -/
def BatchReport.notice (r : BatchReport) : List String :=
  if r.truncated then
    ["  ⚠️ Stopped after " ++ toString r.checked ++ " of " ++ toString r.total ++ " record(s)"]
  else []

/-- The lines on an input, with a block for each of its invalid records. -/
def IsSection (s : Schema) (c : BatchSettings) (path : String) (records : List Json) (lines : List String) : Prop :=
  ∃ blocks, List.Forall₂ (IsBlock records) (s.validateBatch c records).invalid blocks ∧
    lines = "" :: (s.reportOn c true (path, records)).headline :: blocks.flatten ++
      (s.validateBatch c records).notice

section
variable {s : Schema} {c : BatchSettings} {records : List Json} {r : RecordReport} {e : Echo}

/-- The lines on a record show every part of it that is in sight once its secrets are masked. -/
theorem IsBlock.exists_shown {block : List String} (h : IsBlock records r block) {record part : Json}
    (hat : records[r.index]? = some record) (hin : (Redaction.redact record).InSight part) :
    ∃ shown, Glimpse part shown ∧ ∃ line ∈ block, shown.toList <:+: line.toList := by
  obtain ⟨record', line, hat', hline, rfl⟩ := h
  rw [hat] at hat'
  cases hat'
  obtain ⟨shown, hshown, hwithin⟩ := hline.exists_shown hin
  refine ⟨shown, hshown, "    Input: " ++ line, List.mem_append_right _ List.mem_cons_self, ?_⟩
  rw [String.toList_append]
  exact hwithin.trans (List.suffix_append _ _).isInfix

theorem echoInvalid_shows (s : Schema) (c : BatchSettings) (records : List Json) :
    List.Forall₂ (Echo.Shows records) (s.validateBatch c records).invalid
      (echoInvalid records (s.validateBatch c records)) := by
  refine forall₂_filterMap fun r hr => ?_
  obtain ⟨-, record, hat, -⟩ := Schema.mem_validateBatch_invalid_iff.1 hr
  exact ⟨⟨r.index, Redaction.redact record⟩, by rw [hat]; rfl, rfl, record, hat, rfl⟩

theorem exists_shows_of_mem (hr : r ∈ (s.validateBatch c records).invalid) :
    ∃ e ∈ echoInvalid records (s.validateBatch c records), Echo.Shows records r e := by
  have hflip : List.Forall₂ (flip (Echo.Shows records)) _ _ := .flip (echoInvalid_shows s c records)
  exact exists_of_mem_forall₂ hflip hr

/-- What is shown again is what is checked and invalid. -/
theorem exists_mem_echoInvalid_iff (i : Nat) :
    (∃ e ∈ echoInvalid records (s.validateBatch c records), e.index = i) ↔
      i < (s.validateBatch c records).checked ∧ ∃ record, records[i]? = some record ∧ s.isValid record = false := by
  constructor
  · rintro ⟨e, he, rfl⟩
    obtain ⟨r, hr, hshows⟩ := exists_of_mem_forall₂ (echoInvalid_shows s c records) he
    obtain ⟨hlt, record, hat, hinvalid, -⟩ := Schema.mem_validateBatch_invalid_iff.1 hr
    rw [hshows.index_eq]
    exact ⟨hlt, record, hat, hinvalid⟩
  · rintro ⟨hlt, record, hat, hinvalid⟩
    have hr : ⟨i, s.validate record⟩ ∈ (s.validateBatch c records).invalid :=
      Schema.mem_validateBatch_invalid_iff.2 ⟨hlt, record, hat, hinvalid, rfl⟩
    obtain ⟨e, he, hshows⟩ := exists_shows_of_mem hr
    exact ⟨e, he, hshows.index_eq⟩

/-- The echo that is found for a report is its own: at a position there is only one record. -/
theorem echo?_reportOn (path : String) (hr : r ∈ (s.validateBatch c records).invalid) {record : Json}
    (hat : records[r.index]? = some record) :
    (s.reportOn c true (path, records)).echo? r.index = some (Redaction.redact record) := by
  obtain ⟨e, he, hshows⟩ := exists_shows_of_mem hr
  have hfound : ((echoInvalid records (s.validateBatch c records)).find? fun e => e.index = r.index).isSome :=
    List.find?_isSome.2 ⟨e, he, by rw [hshows.index_eq]; exact decide_eq_true rfl⟩
  obtain ⟨e, hfound⟩ := Option.isSome_iff_exists.1 hfound
  -- whichever report it was made for, that one has the same position
  obtain ⟨r', -, hshows⟩ :=
    exists_of_mem_forall₂ (echoInvalid_shows s c records) (List.mem_of_find?_eq_some hfound)
  obtain ⟨record', hat', hrecord⟩ := hshows.record_eq
  have hindex : e.index = r.index := by simpa using List.find?_some hfound
  rw [← hshows.index_eq, hindex, hat] at hat'
  cases hat'
  show ((echoInvalid records (s.validateBatch c records)).find? _).map Echo.record = _
  rw [hfound, Option.map_some, hrecord]

theorem lines_reportOn (path : String) : IsSection s c path records (s.reportOn c true (path, records)).lines := by
  refine ⟨(s.validateBatch c records).invalid.map (s.reportOn c true (path, records)).recordLines, ?_, rfl⟩
  rw [List.forall₂_map_right_iff, List.forall₂_same]
  intro r hr
  obtain ⟨-, record, hat, -⟩ := Schema.mem_validateBatch_invalid_iff.1 hr
  refine ⟨record, _, hat, glimpse_glance _, ?_⟩
  rw [FileReport.recordLines, echo?_reportOn path hr hat]
  rfl

end

/-- Every report of a batch has one echo, of the record that it is on, and no other record is shown again. -/
structure EchoesLineUp (s : Schema) (c : BatchSettings) (records : List Json) : Prop where
  shows : List.Forall₂ (Echo.Shows records) (s.validateBatch c records).invalid
    (echoInvalid records (s.validateBatch c records))
  index_iff : ∀ i, (∃ e ∈ echoInvalid records (s.validateBatch c records), e.index = i) ↔
    i < (s.validateBatch c records).checked ∧ ∃ record, records[i]? = some record ∧ s.isValid record = false
  lines : ∀ path, IsSection s c path records (s.reportOn c true (path, records)).lines

/-- A report for people has the sections on the inputs taken, in order. -/
def ShowsInputs (r : RunReport) (s : Schema) (c : BatchSettings) (files : Files) (taken : List String) : Prop :=
  ∃ sections, List.Forall₂ (fun path lines => ∃ records, readRecords files path = .ok records ∧
      IsSection s c path records lines) taken sections ∧
    r.render .human = String.join ((["═══ Validation Report ═══", "", "Schema: " ++ r.schema,
      "Generated: " ++ r.generatedAt] ++ sections.flatten ++ ["", r.summary]).map (· ++ "\n"))

section
variable {s : Schema} {c : BatchSettings} {w : Surroundings} {schema : String} {inputs : List String}
  {report : RunReport}

theorem showsInputs_of_mem_reports [PatternEngine] (hs : readSchema w.files schema = .ok s)
    (hreport : report ∈ (Command.runValidate w c schema inputs true).reports) :
    ShowsInputs report s c w.files (s.taken c.failFast w.files inputs) := by
  have htakes := s.takes_validateInputs c true w.files inputs
  cases hrun : s.validateInputs c true (inputs.map (Input.under w.files)) with
  | error e =>
    rw [(Command.runValidate_of_error hs hrun).2] at hreport
    cases hreport
  | ok run =>
    rw [(Command.runValidate_of_ok hs hrun).2, List.mem_singleton] at hreport
    subst hreport
    refine ⟨run.files.map FileReport.lines, ?_, by rw [← List.flatMap_def]; rfl⟩
    rw [List.forall₂_map_right_iff]
    refine (htakes.forall₂ hrun).imp ?_
    rintro path file ⟨records, hload, rfl⟩
    exact ⟨records, hload, lines_reportOn path⟩

/-- Echoes line up with reports, and so each invalid record stands below its own position in the report for
people. -/
theorem echoes_lineUp [PatternEngine] (s : Schema) (c : BatchSettings) : (∀ records, EchoesLineUp s c records) ∧
    ∀ w schema inputs report, readSchema w.files schema = .ok s →
      report ∈ (Command.runValidate w c schema inputs true).reports →
        ShowsInputs report s c w.files (s.taken c.failFast w.files inputs) :=
  ⟨fun records => ⟨echoInvalid_shows s c records, exists_mem_echoInvalid_iff, lines_reportOn⟩,
    fun _ _ _ _ => showsInputs_of_mem_reports⟩

theorem echoes_lineUp_sampleFiles : ∃ s report, readSchema Command.sampleFiles "s.json" = .ok s ∧
    (Command.runValidate Command.sampleSurroundings ⟨false, 0⟩ "s.json" ["a.json", "b.json"] true).reports =
      [report] ∧
    ShowsInputs report s ⟨false, 0⟩ Command.sampleFiles (s.taken false Command.sampleFiles ["a.json", "b.json"]) :=
  ⟨_, _, rfl, rfl, (echoes_lineUp _ ⟨false, 0⟩).2 Command.sampleSurroundings "s.json" ["a.json", "b.json"] _ rfl
    List.mem_cons_self⟩

end

end FieldRules
