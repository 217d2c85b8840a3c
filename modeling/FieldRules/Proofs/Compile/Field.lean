/-
What a declaration compiles to. The main statement is `compile_eq_ok_iff`: a field compiles exactly when
its type rule names a registered type with a message, its gate rule is left out or holds a message, and
every other rule reads as a step; the pipeline is then the gate and the type check followed by one step
per rule, in the order of the declaration.
-/
import FieldRules.Proofs.Compile.Arguments

namespace FieldRules

/-! ## Messages and keys -/

theorem requiredMessage_eq_ok_iff {key : String} {missing : ConfigCause} {v : Option Json} {m : String} :
    requiredMessage key missing v = .ok m ↔ v = some (.text m) ∧ m ≠ "" := by
  constructor
  · intro h
    unfold requiredMessage at h
    split at h
    · cases h
    · cases h
    · next s =>
      split at h
      · cases h
      · next hs => cases h; exact ⟨rfl, fun he => hs (String.isEmpty_iff.2 he)⟩
    · cases h
  · rintro ⟨rfl, hm⟩
    exact if_neg fun he => hm (String.isEmpty_iff.1 he)

theorem FieldType.constraint?_eq_some_iff {t : FieldType} {key : String} {c : Constraint} :
    t.constraint? key = some c ↔ c.fieldType = t ∧ c.key = key := by
  constructor
  · exact constraint?_fieldType
  · rintro ⟨rfl, rfl⟩
    cases c <;> rfl

/-- No type has a constraint under the reserved key. -/
theorem FieldType.constraint?_optionalKey (t : FieldType) : t.constraint? optionalKey = none := by
  cases t <;> rfl

namespace FieldSpec

variable {f : FieldSpec} {t : FieldType}

/-! ## The type and the gate -/

theorem typeRule_eq_ok_iff {m : String} :
    f.typeRule = .ok (t, m) ↔ f.get? typeKey = some [.text t.name, .text m] ∧ m ≠ "" := by
  constructor
  · intro h
    -- the rule is refused for its absence, its type, its length and its message, in this order
    unfold typeRule at h
    split at h
    · cases h
    · cases h
    · next v rest hget =>
      split at h
      · cases h
      · next t' ht =>
        split at h
        · cases h
        · next hlen =>
          obtain ⟨m', hm, h⟩ := bind_eq_ok_iff.1 h
          cases h
          obtain ⟨hhead, hne⟩ := requiredMessage_eq_ok_iff.1 hm
          obtain ⟨s, hs, hname⟩ := Option.bind_eq_some_iff.1 ht
          rw [Json.text?_eq_some_iff.1 hs, FieldType.ofName?_eq_some_iff.1 hname] at hget
          obtain ⟨tail, rfl⟩ := List.head?_eq_some_iff.1 hhead
          have : tail = [] := by simpa using hlen
          exact ⟨this ▸ hget, hne⟩
  · rintro ⟨hget, hne⟩
    unfold typeRule
    rw [hget]
    simp only [Json.text?, Option.bind_some, FieldType.ofName?_name]
    exact bind_eq_ok_iff.2 ⟨m, requiredMessage_eq_ok_iff.2 ⟨rfl, hne⟩, rfl⟩

theorem gateRule_eq_ok_iff {g : Gate} :
    f.gateRule t = .ok g ↔ (f.get? requiredKey = none ∧ g = .optional) ∨
      ∃ m, f.get? requiredKey = some [.text m] ∧ m ≠ "" ∧ g = .required m := by
  unfold gateRule
  cases hget : f.get? requiredKey with
  | none => simp [eq_comm]
  | some arguments =>
    constructor
    · intro h
      simp only at h
      split at h
      · cases h
      · next hlen =>
        obtain ⟨m, hm, h⟩ := bind_eq_ok_iff.1 h
        cases h
        obtain ⟨hhead, hne⟩ := requiredMessage_eq_ok_iff.1 hm
        obtain ⟨tail, rfl⟩ := List.head?_eq_some_iff.1 hhead
        have : tail = [] := by simpa using hlen
        exact Or.inr ⟨m, by rw [this], hne, rfl⟩
    · rintro (⟨h, -⟩ | ⟨m, h, hne, rfl⟩)
      · cases h
      · cases h
        exact bind_eq_ok_iff.2 ⟨m, requiredMessage_eq_ok_iff.2 ⟨rfl, hne⟩, rfl⟩

/-! ## The steps -/

variable [PatternEngine]

/-- The step of a rule on a field of the type: the rule ends in a message, its key names a constraint of
the type, and the arguments before the message make the check. -/
inductive MakesStep (t : FieldType) : String × List Json → Step → Prop
  | intro {key m : String} {c : Constraint} {positional : List Json} {k : Check} :
      t.constraint? key = some c → c.Reads positional k →
      MakesStep t (key, positional ++ [.text m]) ⟨key, k, m⟩

theorem stepRule_eq_ok_iff {e : String × List Json} {st : Step} :
    stepRule t e.1 e.2 = .ok st ↔ MakesStep t e st := by
  constructor
  · intro h
    obtain ⟨key, arguments⟩ := e
    unfold stepRule at h
    split at h
    · cases h
    · split at h
      · cases h
      · next c hc =>
        split at h
        · cases h
        · next message hlast =>
          obtain ⟨positional, rfl⟩ := List.getLast?_eq_some_iff.1 hlast
          rw [List.length_append, List.length_singleton, Nat.add_sub_cancel, List.dropLast_concat] at h
          split at h
          · cases h
          · next hcount =>
            split at h
            · obtain ⟨k, hk, h⟩ := bind_eq_ok_iff.1 h
              cases h
              have haccepts : c.accepts positional.length = true := by simpa using hcount
              exact .intro hc (Rule.check_eq_ok_iff.1 ⟨haccepts, hk⟩)
            · cases h
  · intro h
    cases h with
    | @intro key m c positional k hc hk =>
      -- the reserved key is refused before it is looked up, so it must be told apart here
      have hkey : key ≠ optionalKey := by
        rintro rfl
        rw [FieldType.constraint?_optionalKey] at hc
        cases hc
      unfold stepRule
      rw [if_neg hkey]
      simp only [hc, List.getLast?_concat, List.length_append, List.length_singleton, Nat.add_sub_cancel,
        hk.accepts, List.dropLast_concat]
      exact bind_eq_ok_iff.2 ⟨k, hk.check_eq_ok _, rfl⟩

/-! ## The pipeline -/

/-- A field compiles to its gate and its type check, with one step per other rule behind them. -/
theorem compile_eq_ok_iff {p : Pipeline} :
    f.compile = .ok p ↔ ∃ t m g steps,
      (f.get? typeKey = some [.text (FieldType.name t), .text m] ∧ m ≠ "") ∧ f.gateRule t = .ok g ∧
      List.Forall₂ (MakesStep t) f.stepRules steps ∧ p = ⟨g, t, ⟨typeKey, .type t, m⟩ :: steps⟩ := by
  have hsteps : ∀ t steps, (f.stepRules.mapM fun e => stepRule t e.1 e.2) = .ok steps ↔
      List.Forall₂ (MakesStep t) f.stepRules steps := by
    intro t steps
    rw [mapM_eq_ok_iff]
    simp only [stepRule_eq_ok_iff]
  unfold compile
  constructor
  · intro h
    obtain ⟨⟨t, m⟩, ht, h⟩ := bind_eq_ok_iff.1 h
    obtain ⟨g, hg, h⟩ := bind_eq_ok_iff.1 h
    obtain ⟨steps, hs, h⟩ := bind_eq_ok_iff.1 h
    cases h
    exact ⟨t, m, g, steps, typeRule_eq_ok_iff.1 ht, hg, (hsteps t steps).1 hs, rfl⟩
  · rintro ⟨t, m, g, steps, ht, hg, hs, rfl⟩
    exact bind_eq_ok_iff.2 ⟨(t, m), typeRule_eq_ok_iff.2 ht, bind_eq_ok_iff.2 ⟨g, hg,
      bind_eq_ok_iff.2 ⟨steps, (hsteps t steps).2 hs, rfl⟩⟩⟩

theorem compileAs_eq_ok_iff {name : String} {p : Pipeline} : f.compileAs name = .ok p ↔ f.compile = .ok p := by
  unfold compileAs
  cases f.compile with
  | ok q =>
    constructor
    · intro h; cases h; rfl
    · intro h; cases h; rfl
  | error cause =>
    constructor
    · intro h; cases h
    · intro h; cases h

/-- The error of a named field names it. -/
theorem compileAs_eq_error {name : String} {e : ConfigError} (h : f.compileAs name = .error e) :
    e.field = name := by
  unfold compileAs at h
  split at h
  · cases h
  · cases h; rfl

end FieldSpec

/-! ## The schema -/

theorem SchemaSpec.compile_eq_ok_iff [PatternEngine] {s : SchemaSpec} {schema : Schema} :
    s.compile = .ok schema ↔
      List.Forall₂ (fun e q => q.1 = e.1 ∧ FieldSpec.compile e.2 = .ok q.2) s.toList schema := by
  unfold compile
  rw [mapM_eq_ok_iff]
  have hitem : ∀ (e : String × FieldSpec) (q : String × Pipeline),
      (FieldSpec.compileAs e.1 e.2).map (fun p => (e.1, p)) = .ok q ↔
        q.1 = e.1 ∧ FieldSpec.compile e.2 = .ok q.2 := by
    intro e q
    rw [map_eq_ok_iff]
    simp only [FieldSpec.compileAs_eq_ok_iff]
    constructor
    · rintro ⟨p, hp, rfl⟩; exact ⟨rfl, hp⟩
    · rintro ⟨hname, hp⟩; exact ⟨q.2, hp, by rw [← hname]⟩
  simp only [hitem]

end FieldRules
