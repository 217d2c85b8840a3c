/-
Where the settings of the log come from. Verbosity, file and environment are three layers, and each setting says
which of them it listens to: a level of the file counts only without verbosity, the environment overrides level
and form but only with a form that exists, thread ids are switched on by either of two layers, and source
locations and span events follow from the verbosity alone (`LogSettings.Layered`). The main statement is
`resolve_layered`: settings are found exactly when the file names no form that does not exist, and they are then
the ones that the layers give.
-/
import FieldRules.Command.LogSettings
import FieldRules.Proofs.Text.Lowercase
import FieldRules.Proofs.Traversal

namespace FieldRules

/-- The word, with any of its letters small or capital. -/
def IsInAnyCase (word s : String) : Prop :=
  s.toList.map Char.toLower = word.toList

/-! ## Forms by name -/

namespace LogFormat

variable {f : LogFormat} {s : String}

theorem isPlain_name (f : LogFormat) : ∀ d ∈ f.name.toList, Text.IsPlain d := by
  cases f <;> exact Text.isPlain_of_all rfl

theorem name_injective {g : LogFormat} (h : f.name = g.name) : f = g := by
  cases f <;> cases g <;> first | rfl | exact absurd h (by decide)

theorem mem_all (f : LogFormat) : f ∈ all := by cases f <;> decide

theorem ofName_eq_ok_iff : ofName s = .ok f ↔ IsInAnyCase f.name s := by
  rw [IsInAnyCase, ← Text.lowercase_eq_iff f.isPlain_name]
  unfold ofName
  dsimp only
  split
  · next g hg =>
    have hname : g.name = Text.lowercase s := by simpa using List.find?_some hg
    constructor
    · intro h
      cases h
      exact hname.symm
    · intro h
      rw [name_injective (hname.trans h)]
  · next hnone =>
    refine ⟨fun h => (nomatch h), fun h => ?_⟩
    have hne := List.find?_eq_none.1 hnone f f.mem_all
    exact absurd (decide_eq_true h.symm) hne

theorem exists_ofName_error_iff : (∃ e, ofName s = .error e) ↔ ∀ f : LogFormat, ¬ IsInAnyCase f.name s := by
  simp only [← ofName_eq_ok_iff]
  cases ofName s with
  | error e => exact ⟨fun _ _ h => (nomatch h), fun _ => ⟨e, rfl⟩⟩
  | ok f => exact ⟨fun ⟨_, h⟩ => (nomatch h), fun h => absurd rfl (h f)⟩

end LogFormat

namespace LogSettings

variable {verbosity : Nat} {file : LogSection} {env : Variables} {s : LogSettings}

theorem formatIn?_eq_some_iff {f : LogFormat} :
    formatIn? env = some f ↔ ∃ name, env formatVariable = some name ∧ IsInAnyCase f.name name := by
  have hoption : ∀ {x : Except CommandError LogFormat}, x.toOption = some f ↔ x = .ok f := by
    intro x
    cases x with
    | error e => exact ⟨fun h => (nomatch h), fun h => (nomatch h)⟩
    | ok g => exact ⟨fun h => congrArg Except.ok (Option.some.inj h), fun h => congrArg some (Except.ok.inj h)⟩
  unfold formatIn?
  simp only [Option.bind_eq_some_iff, hoption, LogFormat.ofName_eq_ok_iff]

theorem isOn_iff {word : String} : isOn word = true ↔ IsInAnyCase "true" word ∨ word = "1" := by
  have hplain : ∀ d ∈ "true".toList, Text.IsPlain d := Text.isPlain_of_all rfl
  unfold isOn
  rw [Bool.or_eq_true, decide_eq_true_eq, decide_eq_true_eq, Text.lowercase_eq_iff hplain]
  rfl

/-! ## What the verbosity gives -/

theorem ofVerbosity_console (verbosity : Nat) : (ofVerbosity verbosity).console = true := by
  match verbosity with
  | 0 | 1 | 2 | _ + 3 => rfl

theorem ofVerbosity_threadIds_iff : (ofVerbosity verbosity).threadIds = true ↔ 3 ≤ verbosity := by
  match verbosity with
  | 0 | 1 | 2 => decide
  | n + 3 => exact iff_of_true rfl (Nat.le_add_left 3 n)

theorem ofVerbosity_sourceLocation_iff : (ofVerbosity verbosity).sourceLocation = true ↔ 2 ≤ verbosity := by
  match verbosity with
  | 0 | 1 | 2 => decide
  | n + 3 => exact iff_of_true rfl (Nat.le_add_left 2 (n + 1))

theorem ofVerbosity_spanEvents_iff : (ofVerbosity verbosity).spanEvents = true ↔ 3 ≤ verbosity := by
  match verbosity with
  | 0 | 1 | 2 => decide
  | n + 3 => exact iff_of_true rfl (Nat.le_add_left 3 n)

/-! ## The layers -/

/-- No form of the log is named in the environment. -/
def NamesNoFormat (env : Variables) : Prop :=
  ∀ name, env formatVariable = some name → ∀ f : LogFormat, ¬ IsInAnyCase f.name name

/-- Each setting comes from the layer that counts for it. -/
structure Layered (verbosity : Nat) (file : LogSection) (env : Variables) (s : LogSettings) : Prop where
  level_of_env : ∀ level, env levelVariable = some level → s.level = level
  level_of_file : env levelVariable = none → verbosity = 0 → ∀ level, file.level = some level → s.level = level
  level_of_verbosity : env levelVariable = none → verbosity ≠ 0 ∨ file.level = none →
    s.level = (ofVerbosity verbosity).level
  format_of_env : ∀ name f, env formatVariable = some name → IsInAnyCase f.name name → s.format = f
  format_of_file : NamesNoFormat env → ∀ name f, file.format = some name → IsInAnyCase f.name name → s.format = f
  format_of_verbosity : NamesNoFormat env → file.format = none → s.format = (ofVerbosity verbosity).format
  threadIds_iff : s.threadIds = true ↔ file.threadIds = true ∨ 3 ≤ verbosity
  console_iff : s.console = true ↔ env consoleVariable = none ∨
    ∃ word, env consoleVariable = some word ∧ (IsInAnyCase "true" word ∨ word = "1")
  sourceLocation_iff : s.sourceLocation = true ↔ 2 ≤ verbosity
  spanEvents_iff : s.spanEvents = true ↔ 3 ≤ verbosity

/-- The form of the file, or the one before it. -/
def FileFormat (file : LogSection) (before f : LogFormat) : Prop :=
  (∃ name, file.format = some name ∧ IsInAnyCase f.name name) ∨ file.format = none ∧ f = before

theorem withSection_eq_ok_iff {before after : LogSettings} :
    before.withSection file verbosity = .ok after ↔ ∃ f, FileFormat file before.format f ∧
      after = { before with
        level := if verbosity = 0 then file.level.getD before.level else before.level
        format := f
        threadIds := before.threadIds || file.threadIds } := by
  unfold withSection FileFormat
  cases file.format with
  | none =>
    constructor
    · intro h
      cases h
      exact ⟨_, Or.inr ⟨rfl, rfl⟩, rfl⟩
    · rintro ⟨f, ⟨name, hname, -⟩ | ⟨-, rfl⟩, rfl⟩
      · cases hname
      · rfl
  | some name =>
    simp only [bind_eq_ok_iff, LogFormat.ofName_eq_ok_iff]
    constructor
    · rintro ⟨f, hf, h⟩
      cases h
      exact ⟨f, Or.inl ⟨name, rfl, hf⟩, rfl⟩
    · rintro ⟨f, ⟨name', hname, hf⟩ | ⟨hname, -⟩, rfl⟩
      · cases hname
        exact ⟨f, hf, rfl⟩
      · cases hname

theorem exists_withSection_error_iff {before : LogSettings} :
    (∃ e, before.withSection file verbosity = .error e) ↔
      ∃ name, file.format = some name ∧ ∀ f : LogFormat, ¬ IsInAnyCase f.name name := by
  simp only [← LogFormat.exists_ofName_error_iff]
  unfold withSection
  cases file.format with
  | none =>
    constructor
    · rintro ⟨e, h⟩
      cases h
    · rintro ⟨name, hname, -⟩
      cases hname
  | some name =>
    simp only [bind_eq_error_iff, reduceCtorEq, and_false, exists_false, or_false, Option.some.injEq,
      exists_eq_left']

/-- One form is named by a word at most. -/
theorem isInAnyCase_unique {f g : LogFormat} {name : String} (hf : IsInAnyCase f.name name)
    (hg : IsInAnyCase g.name name) : f = g :=
  LogFormat.name_injective (String.toList_inj.1 (hf.symm.trans hg))

theorem formatIn?_eq_none_iff : formatIn? env = none ↔ NamesNoFormat env := by
  rw [Option.eq_none_iff_forall_ne_some]
  simp only [ne_eq, formatIn?_eq_some_iff, not_exists, not_and]
  exact ⟨fun h name hname f => h f name hname, fun h f name hname => h name hname f⟩

/-- What comes of the layers in their turn is what each setting asks of them. -/
theorem layered_withVariables {f : LogFormat} (hf : FileFormat file (ofVerbosity verbosity).format f) :
    Layered verbosity file env (withVariables { ofVerbosity verbosity with
      level := if verbosity = 0 then file.level.getD (ofVerbosity verbosity).level else (ofVerbosity verbosity).level
      format := f
      threadIds := (ofVerbosity verbosity).threadIds || file.threadIds } env) where
  level_of_env level hlevel := by
    simp only [withVariables, hlevel, Option.getD_some]
  level_of_file henv hzero level hlevel := by
    simp only [withVariables, henv, Option.getD_none, hzero, if_true, hlevel, Option.getD_some]
  level_of_verbosity henv h := by
    simp only [withVariables, henv, Option.getD_none]
    rcases h with hpos | hnone
    · rw [if_neg hpos]
    · rw [hnone, Option.getD_none, ite_self]
  format_of_env name g hname hg := by
    simp only [withVariables, formatIn?_eq_some_iff.2 ⟨name, hname, hg⟩, Option.getD_some]
  format_of_file hnone name g hname hg := by
    simp only [withVariables, formatIn?_eq_none_iff.2 hnone, Option.getD_none]
    rcases hf with ⟨name', hname', hf⟩ | ⟨hmissing, -⟩
    · cases hname.symm.trans hname'
      exact isInAnyCase_unique hf hg
    · cases hname.symm.trans hmissing
  format_of_verbosity hnone hmissing := by
    simp only [withVariables, formatIn?_eq_none_iff.2 hnone, Option.getD_none]
    rcases hf with ⟨name, hname, -⟩ | ⟨-, rfl⟩
    · cases hmissing.symm.trans hname
    · rfl
  threadIds_iff := by
    simp only [withVariables, Bool.or_eq_true, ofVerbosity_threadIds_iff]
    exact or_comm
  console_iff := by
    simp only [withVariables]
    cases env consoleVariable with
    | none => exact iff_of_true (ofVerbosity_console verbosity) (Or.inl rfl)
    | some word => simp [isOn_iff]
  sourceLocation_iff := ofVerbosity_sourceLocation_iff
  spanEvents_iff := ofVerbosity_spanEvents_iff

/-- The layers give one answer. -/
theorem Layered.unique {s' : LogSettings} (h : Layered verbosity file env s) (h' : Layered verbosity file env s')
    (hfile : ∀ name, file.format = some name → ∃ f : LogFormat, IsInAnyCase f.name name) : s = s' := by
  have hlevel : s.level = s'.level := by
    cases henv : env levelVariable with
    | some level => rw [h.level_of_env level henv, h'.level_of_env level henv]
    | none =>
      by_cases hzero : verbosity = 0
      · cases hlevel : file.level with
        | some level => rw [h.level_of_file henv hzero level hlevel, h'.level_of_file henv hzero level hlevel]
        | none => rw [h.level_of_verbosity henv (Or.inr hlevel), h'.level_of_verbosity henv (Or.inr hlevel)]
      · rw [h.level_of_verbosity henv (Or.inl hzero), h'.level_of_verbosity henv (Or.inl hzero)]
  have hformat : s.format = s'.format := by
    cases henv : formatIn? env with
    | some f =>
      obtain ⟨name, hname, hf⟩ := formatIn?_eq_some_iff.1 henv
      rw [h.format_of_env name f hname hf, h'.format_of_env name f hname hf]
    | none =>
      have hnone := formatIn?_eq_none_iff.1 henv
      cases hname : file.format with
      | some name =>
        obtain ⟨f, hf⟩ := hfile name hname
        rw [h.format_of_file hnone name f hname hf, h'.format_of_file hnone name f hname hf]
      | none => rw [h.format_of_verbosity hnone hname, h'.format_of_verbosity hnone hname]
  have hconsole : s.console = s'.console := Bool.eq_iff_iff.2 (h.console_iff.trans h'.console_iff.symm)
  have hthreads : s.threadIds = s'.threadIds := Bool.eq_iff_iff.2 (h.threadIds_iff.trans h'.threadIds_iff.symm)
  have hsource : s.sourceLocation = s'.sourceLocation :=
    Bool.eq_iff_iff.2 (h.sourceLocation_iff.trans h'.sourceLocation_iff.symm)
  have hspans : s.spanEvents = s'.spanEvents := Bool.eq_iff_iff.2 (h.spanEvents_iff.trans h'.spanEvents_iff.symm)
  cases s
  cases s'
  simp_all

/-- Settings are missing exactly when the file names a form that does not exist, in whatever letter case and whatever
the environment says; if they are there, they are the ones that the layers give. -/
theorem resolve_layered (verbosity : Nat) (file : LogSection) (env : Variables) :
    ((∃ e, resolve verbosity file env = .error e) ↔
      ∃ name, file.format = some name ∧ ∀ f : LogFormat, ¬ IsInAnyCase f.name name) ∧
    ∀ s, resolve verbosity file env = .ok s ↔
      (∀ name, file.format = some name → ∃ f : LogFormat, IsInAnyCase f.name name) ∧ Layered verbosity file env s := by
  constructor
  · unfold resolve
    simp only [bind_eq_error_iff, reduceCtorEq, and_false, exists_false, or_false]
    exact exists_withSection_error_iff
  · intro s
    constructor
    · intro h
      obtain ⟨after, hafter, h⟩ := bind_eq_ok_iff.1 h
      cases h
      obtain ⟨f, hf, rfl⟩ := withSection_eq_ok_iff.1 hafter
      refine ⟨fun name hname => ?_, layered_withVariables hf⟩
      rcases hf with ⟨name', hname', hf⟩ | ⟨hmissing, -⟩
      · cases hname.symm.trans hname'
        exact ⟨f, hf⟩
      · cases hname.symm.trans hmissing
    · rintro ⟨hfile, hlayered⟩
      obtain ⟨f, hf⟩ : ∃ f, FileFormat file (ofVerbosity verbosity).format f := by
        cases hname : file.format with
        | none => exact ⟨_, Or.inr ⟨hname, rfl⟩⟩
        | some name =>
          obtain ⟨f, hf⟩ := hfile name hname
          exact ⟨f, Or.inl ⟨name, hname, hf⟩⟩
      -- the layers are combined to an answer, and there is only one
      refine bind_eq_ok_iff.2 ⟨_, withSection_eq_ok_iff.2 ⟨f, hf, rfl⟩, ?_⟩
      rw [hlayered.unique (layered_withVariables hf) hfile]

/-- The environment's form does not exist, so the file's is taken; without verbosity its level is taken too. -/
example : (resolve 0 ⟨some "debug", some "JSON", false⟩ fun name =>
      if name = formatVariable then some "xml" else if name = consoleVariable then some "True" else none).toOption =
    some ⟨"debug", .json, true, false, false, false⟩ := by decide

end LogSettings

end FieldRules
