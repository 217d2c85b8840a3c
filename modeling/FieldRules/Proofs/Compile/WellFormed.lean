/-
Which declarations compile. A field is well formed when its type rule is a registered type and a message,
its gate rule, if there is one, is a message, and every other rule is a constraint of the type with
arguments of the right number and kinds and a message behind them. The main statement is
`compile_succeeds_iff`: well-formed fields compile and no others do, a schema compiles exactly when all its
fields do, and otherwise its error is that of its first field that does not.
-/
import FieldRules.Proofs.Compile.Field

namespace FieldRules

variable [PatternEngine]

/-! ## Well-formed declarations -/

/-- A number that can stand for a size. -/
def Json.IsSize (v : Json) : Prop := ∃ n, sizeOf? v = some n

namespace Constraint

/-- The kinds of the arguments before the message; how many there are is asked for apart. -/
def WellTyped : Constraint → List Json → Prop
  | minLength, v :: flag | maxLength, v :: flag => v.IsSize ∧ ∀ w ∈ flag, ∃ b, w = .bool b
  | pattern, arguments => ∀ v ∈ arguments, ∃ s search, v = .text s ∧ PatternEngine.compile s = .ok search
  | enum, arguments => ∀ v ∈ arguments, ∃ names : List String, v = .list (names.map .text)
  | email, _ | integer, _ => True
  | lowerOrEqual, arguments | greaterOrEqual, arguments | equal, arguments | greaterThan, arguments
  | lowerThan, arguments => ∀ v ∈ arguments, ∃ n, v = .number n
  | between, [low, high] => ∃ l u : Number, low = .number l ∧ high = .number u ∧ l.toBinary64 < u.toBinary64
  | elementType, arguments => ∀ v ∈ arguments, ∃ t : ElementType, v = .text t.name
  | minSize, arguments | maxSize, arguments | size, arguments => ∀ v ∈ arguments, v.IsSize
  | _, _ => False

/-- The numbers of arguments before the message: the arity, and one more for the bounds of a length. -/
def TakesCount (c : Constraint) (n : Nat) : Prop :=
  n = c.arity ∨ (c = minLength ∨ c = maxLength) ∧ n = c.arity + 1

/-- An argument list as the constraint takes it, the message at its end. -/
def Takes (c : Constraint) (arguments : List Json) : Prop :=
  ∃ positional message, arguments = positional ++ [.text message] ∧ c.TakesCount positional.length ∧
    c.WellTyped positional

end Constraint

/-- A declaration of a field of type `t` without a mistake. -/
structure FieldSpec.WellFormedAs (t : FieldType) (f : FieldSpec) : Prop where
  type : ∃ message, message ≠ "" ∧ f.get? typeKey = some [.text t.name, .text message]
  gate : ∀ arguments, f.get? requiredKey = some arguments → ∃ message, message ≠ "" ∧ arguments = [.text message]
  rules : ∀ e ∈ f.toList, e.1 ≠ typeKey → e.1 ≠ requiredKey →
    ∃ c : Constraint, c.fieldType = t ∧ c.key = e.1 ∧ c.Takes e.2

def FieldSpec.WellFormed (f : FieldSpec) : Prop := ∃ t, f.WellFormedAs t

/-! ## Arguments -/

namespace Constraint

omit [PatternEngine] in
theorem takesCount_iff {c : Constraint} {n : Nat} : c.TakesCount n ↔ c.accepts n = true := by
  rw [accepts_iff]
  have hflag : (c = minLength ∨ c = maxLength) ↔ c.takesFlag = true := by
    cases c <;> simp [takesFlag]
  unfold TakesCount
  rw [hflag]

theorem Reads.wellTyped {c : Constraint} {arguments : List Json} {k : Check} (h : c.Reads arguments k) :
    c.WellTyped arguments := by
  cases h with
  | length hc hn => cases c <;> cases hc <;> exact ⟨⟨_, hn⟩, fun w hw => (List.not_mem_nil hw).elim⟩
  | lengthFlag hc hn => cases c <;> cases hc <;> exact ⟨⟨_, hn⟩, fun w hw => ⟨_, List.mem_singleton.1 hw⟩⟩
  | pattern hs => exact fun v hv => ⟨_, _, List.mem_singleton.1 hv, hs⟩
  | enum => exact fun v hv => ⟨_, List.mem_singleton.1 hv⟩
  | email => trivial
  | integer => trivial
  | compare hc => cases c <;> cases hc <;> exact fun v hv => ⟨_, List.mem_singleton.1 hv⟩
  | between hlt => exact ⟨_, _, rfl, rfl, hlt⟩
  | elementType => exact fun v hv => ⟨_, List.mem_singleton.1 hv⟩
  | size hc hn => cases c <;> cases hc <;> exact fun v hv => by rw [List.mem_singleton.1 hv]; exact ⟨_, hn⟩

/-- Arguments of the right number and kinds make a check. -/
theorem reads_of_wellTyped {c : Constraint} {arguments : List Json}
    (h : c.accepts arguments.length = true) (ht : c.WellTyped arguments) : ∃ k, c.Reads arguments k := by
  cases c with
  | minLength | maxLength =>
    rcases accepted_length rfl h with ⟨v, rfl⟩ | ⟨v, w, rfl⟩
    · obtain ⟨⟨n, hn⟩, -⟩ := ht
      exact ⟨_, .length rfl hn⟩
    · obtain ⟨⟨n, hn⟩, hflag⟩ := ht
      obtain ⟨b, rfl⟩ := hflag w (List.mem_singleton_self w)
      exact ⟨_, .lengthFlag rfl hn⟩
  | pattern =>
    obtain ⟨v, rfl⟩ := List.length_eq_one_iff.1 (accepted_exactly rfl h)
    obtain ⟨s, search, rfl, hs⟩ := ht v (List.mem_singleton_self v)
    exact ⟨_, .pattern hs⟩
  | enum =>
    obtain ⟨v, rfl⟩ := List.length_eq_one_iff.1 (accepted_exactly rfl h)
    obtain ⟨names, rfl⟩ := ht v (List.mem_singleton_self v)
    exact ⟨_, .enum⟩
  | email => rw [List.length_eq_zero_iff.1 (accepted_exactly rfl h)]; exact ⟨_, .email⟩
  | integer => rw [List.length_eq_zero_iff.1 (accepted_exactly rfl h)]; exact ⟨_, .integer⟩
  | lowerOrEqual | greaterOrEqual | equal | greaterThan | lowerThan =>
    obtain ⟨v, rfl⟩ := List.length_eq_one_iff.1 (accepted_exactly rfl h)
    obtain ⟨n, rfl⟩ := ht v (List.mem_singleton_self v)
    exact ⟨_, .compare rfl⟩
  | between =>
    obtain ⟨low, high, rfl⟩ := List.length_eq_two.1 (accepted_exactly rfl h)
    obtain ⟨l, u, rfl, rfl, hlt⟩ := ht
    exact ⟨_, .between hlt⟩
  | elementType =>
    obtain ⟨v, rfl⟩ := List.length_eq_one_iff.1 (accepted_exactly rfl h)
    obtain ⟨t, rfl⟩ := ht v (List.mem_singleton_self v)
    exact ⟨_, .elementType⟩
  | minSize | maxSize | size =>
    obtain ⟨v, rfl⟩ := List.length_eq_one_iff.1 (accepted_exactly rfl h)
    obtain ⟨n, hn⟩ := ht v (List.mem_singleton_self v)
    exact ⟨_, .size rfl hn⟩

theorem exists_reads_iff {c : Constraint} {arguments : List Json} :
    (∃ k, c.Reads arguments k) ↔ c.TakesCount arguments.length ∧ c.WellTyped arguments := by
  rw [takesCount_iff]
  exact ⟨fun ⟨_, h⟩ => ⟨h.accepts, h.wellTyped⟩, fun ⟨h, ht⟩ => reads_of_wellTyped h ht⟩

end Constraint

/-! ## Fields -/

namespace FieldSpec

variable {f : FieldSpec} {t : FieldType}

omit [PatternEngine] in
theorem exists_gate_iff : (∃ g, f.gateRule t = .ok g) ↔
    ∀ arguments, f.get? requiredKey = some arguments → ∃ message, message ≠ "" ∧ arguments = [.text message] := by
  simp only [gateRule_eq_ok_iff]
  constructor
  · rintro ⟨g, ⟨hnone, -⟩ | ⟨m, hsome, hne, -⟩⟩ arguments hget
    · rw [hnone] at hget; cases hget
    · rw [hsome] at hget; cases hget; exact ⟨m, hne, rfl⟩
  · intro h
    cases hget : f.get? requiredKey with
    | none => exact ⟨_, Or.inl ⟨rfl, rfl⟩⟩
    | some arguments =>
      obtain ⟨m, hne, rfl⟩ := h arguments hget
      exact ⟨_, Or.inr ⟨m, rfl, hne, rfl⟩⟩

theorem exists_step_iff {e : String × List Json} :
    (∃ st, MakesStep t e st) ↔ ∃ c : Constraint, c.fieldType = t ∧ c.key = e.1 ∧ c.Takes e.2 := by
  constructor
  · rintro ⟨st, h⟩
    cases h with
    | intro hc hk =>
      obtain ⟨htype, hkey⟩ := FieldType.constraint?_eq_some_iff.1 hc
      exact ⟨_, htype, hkey, _, _, rfl, Constraint.exists_reads_iff.1 ⟨_, hk⟩⟩
  · rintro ⟨c, htype, hkey, positional, m, harguments, hcount⟩
    obtain ⟨k, hk⟩ := Constraint.exists_reads_iff.2 hcount
    obtain ⟨key, arguments⟩ := e
    cases harguments
    exact ⟨_, .intro (FieldType.constraint?_eq_some_iff.2 ⟨htype, hkey⟩) hk⟩

omit [PatternEngine] in
theorem mem_stepRules {e : String × List Json} :
    e ∈ f.stepRules ↔ e ∈ f.toList ∧ e.1 ≠ typeKey ∧ e.1 ≠ requiredKey := by
  simp [stepRules]

theorem exists_steps_iff : (∃ steps, List.Forall₂ (MakesStep t) f.stepRules steps) ↔
    ∀ e ∈ f.toList, e.1 ≠ typeKey → e.1 ≠ requiredKey →
      ∃ c : Constraint, c.fieldType = t ∧ c.key = e.1 ∧ c.Takes e.2 := by
  simp only [exists_forall₂_iff, mem_stepRules, exists_step_iff, and_imp]

/-- The well-formed declarations compile, and no others. -/
theorem exists_compile_iff : (∃ p, f.compile = .ok p) ↔ f.WellFormed := by
  constructor
  · rintro ⟨p, h⟩
    obtain ⟨t, m, g, steps, ⟨htype, hne⟩, hgate, hsteps, -⟩ := compile_eq_ok_iff.1 h
    exact ⟨t, ⟨m, hne, htype⟩, exists_gate_iff.1 ⟨g, hgate⟩, exists_steps_iff.1 ⟨steps, hsteps⟩⟩
  · rintro ⟨t, ⟨m, hne, htype⟩, hgate, hrules⟩
    obtain ⟨g, hg⟩ := exists_gate_iff.2 hgate
    obtain ⟨steps, hsteps⟩ := exists_steps_iff.2 hrules
    exact ⟨_, compile_eq_ok_iff.2 ⟨t, m, g, steps, ⟨htype, hne⟩, hg, hsteps, rfl⟩⟩

theorem exists_compileAs_iff {name : String} : (∃ p, f.compileAs name = .ok p) ↔ f.WellFormed := by
  simp only [compileAs_eq_ok_iff, exists_compile_iff]

/-- A well-formed declaration leaves the reserved key alone. -/
theorem WellFormed.get?_optionalKey (h : f.WellFormed) : f.get? optionalKey = none := by
  obtain ⟨t, h⟩ := h
  cases hget : f.get? optionalKey with
  | none => rfl
  | some arguments =>
    obtain ⟨c, htype, hkey, -⟩ := h.rules _ (Entries.mem_of_lookup hget) (by simp [optionalKey, typeKey])
      (by simp [optionalKey, requiredKey])
    have hc : t.constraint? optionalKey = some c := FieldType.constraint?_eq_some_iff.2 ⟨htype, hkey⟩
    rw [FieldType.constraint?_optionalKey] at hc
    cases hc

end FieldSpec

/-! ## Schemas -/

namespace SchemaSpec

variable {s : SchemaSpec}

theorem exists_compile_iff :
    (∃ schema, s.compile = .ok schema) ↔ ∀ e ∈ s.toList, ∃ p, FieldSpec.compileAs e.1 e.2 = .ok p := by
  unfold compile
  rw [exists_mapM_ok_iff]
  simp only [map_eq_ok_iff, exists_comm (α := String × Pipeline), exists_eq_right']

/-- The error of a schema is that of its first field with one. -/
theorem compile_eq_error_iff {error : ConfigError} : s.compile = .error error ↔
    ∃ before name f after, s.toList = before ++ (name, f) :: after ∧
      (∀ e ∈ before, ∃ p, FieldSpec.compileAs e.1 e.2 = .ok p) ∧ FieldSpec.compileAs name f = .error error := by
  unfold compile
  rw [mapM_eq_error_iff]
  simp only [map_eq_ok_iff, map_eq_error_iff, exists_comm (α := String × Pipeline), exists_eq_right']
  constructor
  · rintro ⟨before, ⟨name, f⟩, after, hl, hok, he⟩; exact ⟨before, name, f, after, hl, hok, he⟩
  · rintro ⟨before, name, f, after, hl, hok, he⟩; exact ⟨before, (name, f), after, hl, hok, he⟩

end SchemaSpec

/-- Exactly the well-formed fields compile, under any name, and none of them uses the reserved key. A schema
compiles exactly when each of its fields does; otherwise its error is that of the first field that does not,
and names that field. -/
theorem compile_succeeds_iff :
    (∀ (name : String) (f : FieldSpec), (∃ p, f.compileAs name = .ok p) ↔ f.WellFormed) ∧
    (∀ f : FieldSpec, f.WellFormed → f.get? optionalKey = none) ∧
    (∀ s : SchemaSpec,
      (∃ schema, s.compile = .ok schema) ↔ ∀ e ∈ s.toList, ∃ p, FieldSpec.compileAs e.1 e.2 = .ok p) ∧
    ∀ (s : SchemaSpec) (error : ConfigError), s.compile = .error error ↔
      ∃ before f after, s.toList = before ++ (error.field, f) :: after ∧
        (∀ e ∈ before, ∃ p, FieldSpec.compileAs e.1 e.2 = .ok p) ∧ f.compileAs error.field = .error error := by
  refine ⟨fun _ _ => FieldSpec.exists_compileAs_iff, fun _ h => h.get?_optionalKey,
    fun _ => SchemaSpec.exists_compile_iff, fun s error => ?_⟩
  rw [SchemaSpec.compile_eq_error_iff]
  constructor
  · rintro ⟨before, name, f, after, hl, hok, he⟩
    cases FieldSpec.compileAs_eq_error he
    exact ⟨before, f, after, hl, hok, he⟩
  · rintro ⟨before, f, after, hl, hok, he⟩
    exact ⟨before, error.field, f, after, hl, hok, he⟩

end FieldRules
