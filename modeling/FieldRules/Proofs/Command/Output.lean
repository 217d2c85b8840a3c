/-
The output in the forms that programs read. Notices, headings and tables are for people, so in the other forms the
output is the documents and nothing else, whatever else is said between them (`writeAll_documents`). A command line
leaves one document if it comes to its report, and else nothing: `output_machineReadable`. In the JSON forms what is
left is read as that document again (`parseWithin_of_isClosed`).
-/
import FieldRules.Proofs.Command.Distinct

namespace FieldRules

/-! ## Documents -/

/-- A text with a line break at its end. -/
def EndsLine (s : String) : Prop :=
  ∃ body, s = body ++ "\n"

/-- The text `t` is `s` with one line break behind it, unless `s` ends in one. -/
def IsClosed (s t : String) : Prop :=
  EndsLine s ∧ t = s ∨ ¬ EndsLine s ∧ t = s ++ "\n"

/-- The document that a message holds. -/
def Message.document? : Message → Option Json
  | .data v => some v
  | .runReport r => some r.toJson
  | .schemaSummary s _ => some s.toJson
  | _ => none

/-- The documents of messages without lines. -/
structure HoldDocuments (messages : List Message) (documents : List Json) : Prop where
  no_line : ∀ text, .line text ∉ messages
  documents_eq : messages.filterMap Message.document? = documents

theorem endsLine_iff {s : String} : EndsLine s ↔ s.toList.getLast? = some '\n' := by
  rw [List.getLast?_eq_some_iff]
  constructor
  · rintro ⟨body, rfl⟩
    exact ⟨body.toList, String.toList_append⟩
  · rintro ⟨cs, hcs⟩
    refine ⟨String.ofList cs, ?_⟩
    rw [← String.toList_inj, hcs, String.toList_append, String.toList_ofList]
    rfl

/-- A document in a JSON form is read from its text again, by a reader that goes deeper than it nests. -/
theorem parseWithin_of_isClosed {f : OutputFormat} {document : Json} {text : String} {d : Nat}
    (hf : f = .json ∨ f = .jsonPretty) (hdistinct : document.Distinct) (hd : document.depth < d)
    (h : IsClosed (f.render document) text) : Json.parseWithin d text = .ok document := by
  have hbare := Json.parseWithin_texts hdistinct hd
  have hclosed := @Json.parseWithin_texts_append document d hdistinct hd "\n" (List.forall_mem_singleton.2 rfl)
  rcases h with ⟨-, rfl⟩ | ⟨-, rfl⟩ <;> rcases hf with rfl | rfl
  · exact hbare.1
  · exact hbare.2
  · exact hclosed.1
  · exact hclosed.2

/-- The form for people is the only one of its own. -/
theorem OutputFormat.renderFor_of_ne_human {f : OutputFormat} (hf : f ≠ .human) (v : Json) (text : String) :
    f.renderFor v text = f.render v := by
  cases f with
  | human => exact (hf rfl).elim
  | json | yaml | jsonPretty => rfl

theorem CommandError.exitCode_ne_zero (e : CommandError) : e.exitCode ≠ 0 := by
  cases e <;> exact Nat.succ_ne_zero _

namespace Console

variable {c : Console} {messages : List Message} {documents : List Json} {document : Json} {m : Message}

theorem isClosed_endLine (s : String) : IsClosed s (endLine s) := by
  rw [IsClosed, endsLine_iff, endLine]
  by_cases h : s.toList.getLast? = some '\n'
  · exact Or.inl ⟨h, if_pos h⟩
  · exact Or.inr ⟨h, if_neg h⟩

/-- A message with a document comes to that document. -/
theorem isClosed_write (hf : c.format ≠ .human) (hm : m.document? = some document) :
    IsClosed (c.format.render document) (c.write m) := by
  cases m with
  | data v =>
    cases hm
    exact isClosed_endLine _
  | runReport r =>
    cases hm
    rw [write, RunReport.render, OutputFormat.renderFor_of_ne_human hf]
    exact isClosed_endLine _
  | schemaSummary s detailed =>
    cases hm
    rw [write, SchemaSummary.render, OutputFormat.renderFor_of_ne_human hf]
    exact isClosed_endLine _
  | info | success | warning | «section» | table | line => cases hm

/-- A message without a document comes to nothing. -/
theorem write_eq_empty (hf : c.format ≠ .human) (hline : ∀ text, m ≠ .line text) (hm : m.document? = none) :
    c.write m = "" := by
  have hhuman : c.isHuman = false := decide_eq_false hf
  cases m with
  | info | success | warning | «section» | table => simp [write, hhuman]
  | line text => exact (hline text rfl).elim
  | data | runReport | schemaSummary => cases hm

/-- The output is the documents, each closed, in order. -/
theorem writeAll_documents (hf : c.format ≠ .human) (h : HoldDocuments messages documents) :
    ∃ pieces, List.Forall₂ (fun document piece => IsClosed (c.format.render document) piece) documents pieces ∧
      c.writeAll messages = String.join pieces := by
  obtain ⟨hline, rfl⟩ := h
  induction messages with
  | nil => exact ⟨[], .nil, rfl⟩
  | cons m messages ih =>
    obtain ⟨pieces, hpieces, htext⟩ := ih fun text hmem => hline text (List.mem_cons_of_mem m hmem)
    have hwrite : c.writeAll (m :: messages) = c.write m ++ String.join pieces := by
      rw [← htext, writeAll, writeAll, List.map_cons, String.join_cons]
    -- a message adds its document or nothing
    cases hm : m.document? with
    | none =>
      have hempty := write_eq_empty hf (fun text heq => hline text (heq ▸ List.mem_cons_self)) hm
      rw [List.filterMap_cons_none hm]
      exact ⟨pieces, hpieces, by rw [hwrite, hempty, String.empty_append]⟩
    | some document =>
      rw [List.filterMap_cons_some hm]
      exact ⟨c.write m :: pieces, .cons (isClosed_write hf hm) hpieces, by rw [hwrite, String.join_cons]⟩

theorem writeAll_of_no_document (hf : c.format ≠ .human) (h : HoldDocuments messages []) :
    c.writeAll messages = "" := by
  obtain ⟨pieces, hpieces, htext⟩ := writeAll_documents hf h
  cases hpieces
  exact htext

theorem isClosed_writeAll (hf : c.format ≠ .human) (h : HoldDocuments messages [document]) :
    IsClosed (c.format.render document) (c.writeAll messages) := by
  obtain ⟨pieces, hpieces, htext⟩ := writeAll_documents hf h
  obtain ⟨piece, _, hclosed, hnil, rfl⟩ := List.forall₂_cons_left_iff.1 hpieces
  cases hnil
  rw [htext, String.join_cons, String.join_nil, String.append_empty]
  exact hclosed

end Console

/-! ## Commands -/

namespace Command

variable [PatternEngine] {w : Surroundings} {c : BatchSettings} {schema : String} {s : Schema} {inputs : List String}
  {echo : Bool}

/-- The document that a command comes to: the report of a run over inputs that load, early as it may stop, the
summary of a schema that is read, or the types that are asked for. -/
def Reports (w : Surroundings) (settings : Settings) : Command → Json → Prop
  | .validate schema inputs failFast maxErrors echo, document => ∃ s taken run, readSchema w.files schema = .ok s ∧
      s.Takes (settings.validation.override failFast maxErrors) echo w.files inputs taken (.ok run) ∧
      document = RunReport.toJson ⟨schema, w.now, run.files⟩
  | .check schema _, document =>
    ∃ s, readSchema w.files schema = .ok s ∧ document = (SchemaSummary.ofSchema schema s).toJson
  | .types name, document => ∃ types, typesNamed name = .ok types ∧ document = .list (types.map FieldType.toJson)
  | .completions _, _ => False

theorem runValidate_of_schemaError {e : CommandError} (hs : readSchema w.files schema = .error e) :
    HoldDocuments (runValidate w c schema inputs echo).messages [] ∧
      (runValidate w c schema inputs echo).result = .error e := by
  unfold runValidate
  rw [hs]
  exact ⟨⟨by simp [CommandRun.after], rfl⟩, rfl⟩

theorem runValidate_no_document (hs : readSchema w.files schema = .ok s) {e : CommandError}
    (h : s.validateInputs c echo (inputs.map (Input.under w.files)) = .error e) :
    HoldDocuments (runValidate w c schema inputs echo).messages [] := by
  have hinputs : s.validateInputs c echo (inputs.map fun path => ⟨path, readRecords w.files path⟩) = .error e := h
  unfold runValidate
  rw [hs]
  simp only [CommandRun.after, hinputs]
  exact ⟨by simp, rfl⟩

/-- A run that comes to its end leaves its report, whether it stopped early and whatever its verdict is. -/
theorem runValidate_documents (hs : readSchema w.files schema = .ok s) {run : FileRun}
    (h : s.validateInputs c echo (inputs.map (Input.under w.files)) = .ok run) :
    HoldDocuments (runValidate w c schema inputs echo).messages [RunReport.toJson ⟨schema, w.now, run.files⟩] := by
  have hinputs : s.validateInputs c echo (inputs.map fun path => ⟨path, readRecords w.files path⟩) = .ok run := h
  unfold runValidate
  rw [hs]
  simp only [CommandRun.after, hinputs]
  cases run.stopped <;> cases RunReport.verdict ⟨schema, w.now, run.files⟩ <;> exact ⟨by simp, rfl⟩

variable {settings : Settings} {console : Console} {command : Command} {document : Json}

/-- What a command comes to repeats no key. -/
theorem Reports.distinct (h : command.Reports w settings document) : document.Distinct := by
  cases command with
  | validate schema inputs failFast maxErrors echo =>
    obtain ⟨s, taken, run, -, htakes, rfl⟩ := h
    exact htakes.distinct_toJson schema w.now
  | check schema detailed =>
    obtain ⟨s, -, rfl⟩ := h
    exact SchemaSummary.distinct_toJson _
  | types name =>
    obtain ⟨types, -, rfl⟩ := h
    exact Json.distinct_list_map fun t _ => t.distinct_toJson
  | completions => exact h.elim

theorem run_of_reports (hf : console.format ≠ .human) (h : command.Reports w settings document) :
    IsClosed (console.format.render document) (command.run w settings console).1 := by
  cases command with
  | validate schema inputs failFast maxErrors echo =>
    obtain ⟨s, taken, run, hs, htakes, rfl⟩ := h
    exact Console.isClosed_writeAll hf (runValidate_documents hs htakes.eq_validateInputs)
  | check schema detailed =>
    obtain ⟨s, hs, rfl⟩ := h
    have hmessages : (runCheck w schema detailed).messages = [.info ("Checking schema: " ++ schema),
        .schemaSummary (.ofSchema schema s) detailed] := by
      rw [runCheck, hs]
      rfl
    refine Console.isClosed_writeAll hf ?_
    rw [hmessages]
    exact ⟨by simp, rfl⟩
  | types name =>
    obtain ⟨types, htypes, rfl⟩ := h
    have hmessages : (runTypes console.format name).messages = [.data (.list (types.map FieldType.toJson))] := by
      rw [runTypes, htypes]
      exact if_neg hf
    refine Console.isClosed_writeAll hf ?_
    rw [hmessages]
    exact ⟨by simp, rfl⟩
  | completions => exact h.elim

theorem run_of_not_reports (hf : console.format ≠ .human) (hcommand : ∀ shell, command ≠ .completions shell)
    (h : ∀ document, ¬ command.Reports w settings document) :
    (command.run w settings console).1 = "" ∧ ∃ e, (command.run w settings console).2 = .error e := by
  cases command with
  | validate schema inputs failFast maxErrors echo =>
    cases hs : readSchema w.files schema with
    | error e =>
      obtain ⟨hdocuments, hresult⟩ := runValidate_of_schemaError hs
      exact ⟨Console.writeAll_of_no_document hf hdocuments, e, hresult⟩
    | ok s =>
      have htakes := s.takes_validateInputs (settings.validation.override failFast maxErrors) echo w.files inputs
      cases hrun : s.validateInputs (settings.validation.override failFast maxErrors) echo
          (inputs.map (Input.under w.files)) with
      | error e =>
        exact ⟨Console.writeAll_of_no_document hf (runValidate_no_document hs hrun), e,
          (runValidate_of_error hs hrun).1⟩
      | ok run =>
        rw [hrun] at htakes
        exact (h _ ⟨s, _, run, hs, htakes, rfl⟩).elim
  | check schema detailed =>
    cases hs : readSchema w.files schema with
    | error e =>
      have hrun : runCheck w schema detailed = ⟨[.info ("Checking schema: " ++ schema)], .error e⟩ := by
        rw [runCheck, hs]
        rfl
      rw [Command.run, hrun]
      exact ⟨Console.writeAll_of_no_document hf ⟨by simp, rfl⟩, e, rfl⟩
    | ok s => exact (h _ ⟨s, hs, rfl⟩).elim
  | types name =>
    cases htypes : typesNamed name with
    | error e =>
      have hrun : runTypes console.format name = ⟨[], .error e⟩ := by
        rw [runTypes, htypes]
        rfl
      rw [Command.run, hrun]
      exact ⟨rfl, e, rfl⟩
    | ok types => exact (h _ ⟨types, htypes, rfl⟩).elim
  | completions shell => exact (hcommand shell rfl).elim

end Command

/-! ## Command lines -/

namespace CommandLine

/-- The form in which a command line is answered. -/
def form (a : CommandLine) (settings : Settings) : OutputFormat :=
  (a.output <|> settings.output.format).getD .human

/-- A command line leaves one document on the output if its command comes to one, and else it fails and leaves
nothing. -/
structure LeavesOneDocument [PatternEngine] (a : CommandLine) (w : Surroundings) (settings : Settings) : Prop where
  of_reports : ∀ document, a.command.Reports w settings document →
    IsClosed ((a.form settings).render document) (a.run w).output
  /-- Whoever reads JSON deeply enough reads that document. -/
  read_of_reports : a.form settings = .json ∨ a.form settings = .jsonPretty →
    ∀ document, a.command.Reports w settings document →
      ∀ d, document.depth < d → Json.parseWithin d (a.run w).output = .ok document
  of_not_reports : (∀ document, ¬ a.command.Reports w settings document) →
    (a.run w).output = "" ∧ (a.run w).exitCode ≠ 0

variable {a : CommandLine} {w : Surroundings} {warnings : List String} {settings : Settings}

theorem run_of_settingsError [PatternEngine] {e : CommandError} (h : Settings.find w a.config = .error e) :
    (a.run w).output = "" ∧ (a.run w).exitCode ≠ 0 := by
  unfold run
  rw [h]
  exact ⟨rfl, e.exitCode_ne_zero⟩

/-- What a command writes is what the program leaves on the output, and its failure is one of the program. -/
theorem exists_run_command [PatternEngine] (h : Settings.find w a.config = .ok (warnings, settings)) :
    ∃ console : Console, console.format = a.form settings ∧
      (a.run w).output = (a.command.run w settings console).1 ∧
      ∀ e, (a.command.run w settings console).2 = .error e → (a.run w).exitCode = e.exitCode := by
  refine ⟨⟨a.form settings, !a.noColor && w.terminal && settings.output.color, a.quiet⟩, rfl, ?_⟩
  unfold run form
  rw [h]
  dsimp only
  generalize a.command.run w settings _ = ended
  obtain ⟨output, _ | _⟩ := ended
  · exact ⟨rfl, fun e he => by cases he; rfl⟩
  · exact ⟨rfl, nofun⟩

theorem leavesOneDocument [PatternEngine] (h : Settings.find w a.config = .ok (warnings, settings))
    (hf : a.form settings ≠ .human) (hcommand : ∀ shell, a.command ≠ .completions shell) :
    a.LeavesOneDocument w settings := by
  obtain ⟨console, hformat, houtput, hfails⟩ := exists_run_command h
  rw [← hformat] at hf
  have hcloses : ∀ document, a.command.Reports w settings document →
      IsClosed ((a.form settings).render document) (a.run w).output := by
    intro document hreports
    rw [houtput, ← hformat]
    exact Command.run_of_reports hf hreports
  refine ⟨hcloses, fun hjson document hreports d hd => ?_, fun hnone => ?_⟩
  · exact parseWithin_of_isClosed hjson hreports.distinct hd (hcloses document hreports)
  · obtain ⟨hempty, e, hresult⟩ := Command.run_of_not_reports hf hcommand hnone
    rw [houtput, hfails e hresult]
    exact ⟨hempty, e.exitCode_ne_zero⟩

/-- In a form for programs the messages come to their documents, whatever the console is set to besides, and each
document in a JSON form is read from its piece again. So a command line leaves one document, or nothing if it fails
before, be it because of its settings. -/
theorem output_machineReadable [PatternEngine] {f : OutputFormat} (hf : f ≠ .human) :
    (∀ color quiet messages documents, HoldDocuments messages documents → ∃ pieces,
      List.Forall₂ (fun document piece => IsClosed (f.render document) piece) documents pieces ∧
        Console.writeAll ⟨f, color, quiet⟩ messages = String.join pieces) ∧
    (f = .json ∨ f = .jsonPretty → ∀ document piece d, document.Distinct → document.depth < d →
      IsClosed (f.render document) piece → Json.parseWithin d piece = .ok document) ∧
    ∀ (a : CommandLine) (w : Surroundings), (∀ shell, a.command ≠ .completions shell) →
      (∀ e, Settings.find w a.config = .error e → (a.run w).output = "" ∧ (a.run w).exitCode ≠ 0) ∧
      ∀ warnings settings, Settings.find w a.config = .ok (warnings, settings) → a.form settings = f →
        a.LeavesOneDocument w settings := by
  refine ⟨?_, fun hjson document piece d => parseWithin_of_isClosed hjson, ?_⟩
  · intro color quiet messages documents h
    exact Console.writeAll_documents (c := ⟨f, color, quiet⟩) hf h
  · refine fun a w hcommand => ⟨fun e => run_of_settingsError, ?_⟩
    rintro warnings settings hfound rfl
    exact leavesOneDocument hfound hf hcommand

/-- A command line that asks for the constraints of a type. -/
def sampleTypes : CommandLine :=
  ⟨0, false, none, some .json, false, .types (some "boolean")⟩

theorem output_machineReadable_sampleTypes : OutputFormat.json ≠ .human ∧
    IsClosed (OutputFormat.json.render (.list [FieldType.boolean.toJson]))
      (sampleTypes.run Command.sampleSurroundings).output ∧
    Json.parse (sampleTypes.run Command.sampleSurroundings).output = .ok (.list [FieldType.boolean.toJson]) := by
  have hjson : OutputFormat.json ≠ .human := by decide
  have hfound : Settings.find Command.sampleSurroundings sampleTypes.config = .ok ([], .standard) := rfl
  have hone := ((output_machineReadable hjson).2.2 sampleTypes Command.sampleSurroundings nofun).2 _ _ hfound rfl
  have hreports : sampleTypes.command.Reports Command.sampleSurroundings .standard
      (.list [FieldType.boolean.toJson]) := ⟨[.boolean], rfl, rfl⟩
  rw [← Json.parseWithin_depthLimit]
  exact ⟨hjson, hone.of_reports _ hreports, hone.read_of_reports (Or.inl rfl) _ hreports _ (by decide)⟩

end CommandLine

end FieldRules
