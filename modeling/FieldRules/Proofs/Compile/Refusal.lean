/-
Which argument of a constraint is refused, and in what words. Every constraint takes arguments of fixed kinds
(`Constraint.kinds`). They are looked at from left to right, and the first one that is not of its kind is refused
(`RefusedFirst`); only when both ends of a range are numbers is their order looked at (`Constraint.Refuses`). The
main statement is `check_eq_error_iff`: on arguments whose number the constraint accepts, this is exactly the
error that reading them ends in.
-/
import FieldRules.Proofs.Compile.WellFormed

namespace FieldRules

variable [PatternEngine]

/-! ## Kinds of arguments -/

/-- What an argument can be asked to be. -/
inductive ArgumentKind where
  | size
  | flag
  | number
  | pattern
  | names
  | elementType
deriving DecidableEq

namespace ArgumentKind

/-- The values of a kind. -/
def Admits : ArgumentKind → Json → Prop
  | size, v => v.IsSize
  | flag, v => ∃ b, v = .bool b
  | number, v => ∃ n, v = .number n
  | pattern, v => ∃ s search, v = .text s ∧ PatternEngine.compile s = .ok search
  | names, v => ∃ names : List String, v = .list (names.map .text)
  | elementType, v => ∃ t : ElementType, v = .text t.name

/-- What is expected in the place of a value that is not of the kind. -/
def expected : ArgumentKind → String
  | size => "a non-negative integer"
  | flag => "a boolean trim flag after the length"
  | number => "a finite number"
  | pattern => "a regular expression pattern string"
  | names => "an array of strings"
  | elementType => "one of \"string\" | \"number\" | \"boolean\" | \"object\""

/-- What is said of a value that is not of the kind. A text that is no pattern is refused for its own fault. -/
inductive Refuses (r : Rule) : ArgumentKind → Json → ConfigCause → Prop
  | fault {s reason : String} :
      PatternEngine.compile s = .error reason → Refuses r pattern (.text s) (.invalidPattern s reason)
  | other {kind : ArgumentKind} {v : Json} :
      ¬ kind.Admits v → (kind = pattern → ∀ s, v ≠ .text s) →
      Refuses r kind v (.invalidArgument r.key r.type kind.expected)

end ArgumentKind

/-- Of the arguments, taken from left to right with their kinds, the first one that is not of its kind is refused
in these words. -/
inductive RefusedFirst (r : Rule) : List ArgumentKind → List Json → ConfigCause → Prop
  | here {kind : ArgumentKind} {kinds : List ArgumentKind} {v : Json} {arguments : List Json} {cause : ConfigCause} :
      kind.Refuses r v cause → RefusedFirst r (kind :: kinds) (v :: arguments) cause
  | later {kind : ArgumentKind} {kinds : List ArgumentKind} {v : Json} {arguments : List Json} {cause : ConfigCause} :
      kind.Admits v → RefusedFirst r kinds arguments cause → RefusedFirst r (kind :: kinds) (v :: arguments) cause

namespace Constraint

/-- The kinds of the arguments before the message, a flag that may be left out among them. -/
def kinds : Constraint → List ArgumentKind
  | minLength | maxLength => [.size, .flag]
  | pattern => [.pattern]
  | enum => [.names]
  | email | integer => []
  | lowerOrEqual | greaterOrEqual | equal | greaterThan | lowerThan => [.number]
  | between => [.number, .number]
  | elementType => [.elementType]
  | minSize | maxSize | size => [.size]

/-- What is said of arguments that are as many as the constraint accepts, and are refused. -/
inductive Refuses (r : Rule) (c : Constraint) (arguments : List Json) : ConfigCause → Prop
  | argument {cause : ConfigCause} : RefusedFirst r c.kinds arguments cause → Refuses r c arguments cause
  | range {l u : Number} :
      c = between → arguments = [.number l, .number u] → ¬ l.toBinary64 < u.toBinary64 →
      Refuses r c arguments (.invalidRange r.key l.toBinary64 u.toBinary64)

end Constraint

/-! ## Single arguments -/

section
variable {r : Rule} {kind : ArgumentKind} {kinds : List ArgumentKind} {v : Json} {arguments : List Json}
  {cause : ConfigCause}

/-- Outside of texts for a pattern there is one thing to say. -/
theorem ArgumentKind.refuses_iff (h : kind ≠ .pattern) :
    kind.Refuses r v cause ↔ ¬ kind.Admits v ∧ cause = .invalidArgument r.key r.type kind.expected := by
  constructor
  · intro hrefused
    cases hrefused with
    | fault _ => exact absurd rfl h
    | other hv _ => exact ⟨hv, rfl⟩
  · rintro ⟨hv, rfl⟩
    exact .other hv fun hkind => absurd hkind h

/-- A reader that has one thing to say of what it does not read refuses exactly what is not of its kind. -/
theorem ArgumentKind.refuses_of_reader {α : Type} {x : Except ConfigCause α} (h : kind ≠ .pattern)
    (hok : (∃ a, x = .ok a) ↔ kind.Admits v)
    (herror : ∀ cause, x = .error cause → cause = .invalidArgument r.key r.type kind.expected) :
    x = .error cause ↔ kind.Refuses r v cause := by
  rw [refuses_iff h, ← hok]
  constructor
  · rintro rfl
    refine ⟨?_, herror cause rfl⟩
    rintro ⟨a, ha⟩
    cases ha
  · rintro ⟨hnone, rfl⟩
    cases x with
    | ok a => exact absurd ⟨a, rfl⟩ hnone
    | error cause => rw [herror cause rfl]

@[simp] theorem not_refusedFirst_nil : ¬ RefusedFirst r kinds [] cause := by
  intro h
  cases h

@[simp] theorem refusedFirst_cons_iff : RefusedFirst r (kind :: kinds) (v :: arguments) cause ↔
    kind.Refuses r v cause ∨ kind.Admits v ∧ RefusedFirst r kinds arguments cause := by
  constructor
  · intro h
    cases h with
    | here h => exact Or.inl h
    | later hv h => exact Or.inr ⟨hv, h⟩
  · rintro (h | ⟨hv, h⟩)
    · exact .here h
    · exact .later hv h

namespace Rule

theorem size_eq_error_iff : r.size v = .error cause ↔ ArgumentKind.size.Refuses r v cause := by
  refine ArgumentKind.refuses_of_reader (by decide) ?_ fun e he => ?_
  · simp only [size_eq_ok_iff]
    rfl
  · unfold size invalid at he
    split at he
    · cases he
    · cases he; rfl

theorem number_eq_error_iff : r.number v = .error cause ↔ ArgumentKind.number.Refuses r v cause := by
  refine ArgumentKind.refuses_of_reader (by decide) ?_ fun e he => ?_
  · simp only [number_eq_ok_iff, ArgumentKind.Admits]
    exact ⟨fun ⟨_, n, hn, _⟩ => ⟨n, hn⟩, fun ⟨n, hn⟩ => ⟨_, n, hn, rfl⟩⟩
  · unfold number invalid at he
    split at he
    · cases he
    · cases he; rfl

theorem trimFlag_eq_error_iff : r.trimFlag [v] = .error cause ↔ ArgumentKind.flag.Refuses r v cause := by
  refine ArgumentKind.refuses_of_reader (by decide) ?_ fun e he => ?_
  · simp only [trimFlag_singleton]
    rfl
  · unfold trimFlag invalid at he
    split at he
    · cases he
    · cases he
    · cases he; rfl

theorem names_eq_error_iff : r.names v = .error cause ↔ ArgumentKind.names.Refuses r v cause := by
  refine ArgumentKind.refuses_of_reader (by decide) ?_ fun e he => ?_
  · simp only [names_eq_ok_iff]
    rfl
  · unfold Rule.names invalid at he
    split at he
    · split at he
      · cases he
      · cases he; rfl
    · cases he; rfl

theorem elementType_eq_error_iff :
    r.elementType v = .error cause ↔ ArgumentKind.elementType.Refuses r v cause := by
  refine ArgumentKind.refuses_of_reader (by decide) ?_ fun e he => ?_
  · simp only [elementType_eq_ok_iff]
    rfl
  · unfold elementType invalid at he
    split at he
    · cases he
    · cases he; rfl

theorem pattern_eq_error_iff : r.pattern v = .error cause ↔ ArgumentKind.pattern.Refuses r v cause := by
  constructor
  · intro h
    unfold pattern at h
    split at h
    · next s =>
      split at h
      · cases h
      · next e he => cases h; exact .fault he
    · next hv =>
      cases h
      exact .other (fun ⟨s, _, hs, _⟩ => hv s hs) fun _ s hs => hv s hs
  · intro h
    unfold pattern
    cases h with
    | fault he => simp only [he]
    | other hadmits hv =>
      split
      · next s => exact absurd rfl (hv rfl s)
      · rfl

end Rule

/-! ## All arguments of a constraint -/

omit [PatternEngine] in
/-- Reading stops at the first refusal, so what is made of the arguments in the end does not matter. -/
theorem bind_ok_eq_error_iff {ε α β : Type} {x : Except ε α} {f : α → β} {e : ε} :
    (x >>= fun a => .ok (f a)) = .error e ↔ x = .error e := by
  rw [bind_eq_error_iff]
  constructor
  · rintro (h | ⟨a, -, h⟩)
    · exact h
    · cases h
  · exact Or.inl

namespace Constraint

variable {c : Constraint}

/-- Only ranges are refused for anything but a single argument. -/
theorem refuses_iff (hc : c ≠ between) : c.Refuses r arguments cause ↔ RefusedFirst r c.kinds arguments cause := by
  constructor
  · intro h
    cases h with
    | argument h => exact h
    | range hbetween => exact absurd hbetween hc
  · exact .argument

/-- A constraint with one argument refuses what its reader refuses. -/
theorem check_eq_error_iff_of_reader {α : Type} {reader : Json → Except ConfigCause α} (mk : α → Check)
    (hkinds : c.kinds = kind :: kinds) (hc : c ≠ between)
    (hcheck : r.check c [v] = reader v >>= fun a => .ok (mk a))
    (hreader : reader v = .error cause ↔ kind.Refuses r v cause) :
    r.check c [v] = .error cause ↔ c.Refuses r [v] cause := by
  rw [refuses_iff hc, hkinds, hcheck, bind_ok_eq_error_iff, hreader]
  simp

theorem check_lengthBound_eq_error_iff {mk : Nat → Bool → TextCheck} (hc : c.lengthBound? = some mk)
    (h : c.accepts arguments.length = true) :
    r.check c arguments = .error cause ↔ c.Refuses r arguments cause := by
  have hcheck : ∀ v flag, r.check c (v :: flag) =
      r.size v >>= fun n => r.trimFlag flag >>= fun b => .ok (.text (mk n b)) := by
    intro v flag
    cases c <;> cases hc <;> rfl
  have hkinds : c.kinds = [.size, .flag] := by cases c <;> cases hc <;> rfl
  have hbetween : c ≠ between := by rintro rfl; cases hc
  rcases accepted_length hc h with ⟨v, rfl⟩ | ⟨v, w, rfl⟩
  · exact check_eq_error_iff_of_reader (fun n => .text (mk n false)) hkinds hbetween (hcheck v []) Rule.size_eq_error_iff
  · rw [refuses_iff hbetween, hkinds, hcheck, bind_eq_error_iff]
    simp only [bind_ok_eq_error_iff, Rule.size_eq_error_iff, Rule.trimFlag_eq_error_iff, Rule.size_eq_ok_iff,
      refusedFirst_cons_iff, not_refusedFirst_nil, and_false, or_false]
    exact or_congr_right exists_and_right

theorem check_between_eq_error_iff {low high : Json} :
    r.check between [low, high] = .error cause ↔ between.Refuses r [low, high] cause := by
  have hcheck : r.check between [low, high] = r.range low high >>= fun k => .ok (.number k) := rfl
  rw [hcheck, bind_ok_eq_error_iff]
  unfold Rule.range
  rw [bind_eq_error_iff, Rule.number_eq_error_iff]
  simp only [bind_eq_error_iff, Rule.number_eq_error_iff, Rule.number_eq_ok_iff]
  constructor
  · rintro (h | ⟨_, ⟨l, rfl, rfl⟩, h | ⟨_, ⟨u, rfl, rfl⟩, h⟩⟩)
    · exact .argument (.here h)
    · exact .argument (.later ⟨l, rfl⟩ (.here h))
    · -- both ends are numbers, so it is their order that is refused
      split at h
      · cases h
      · next hlt => cases h; exact .range rfl rfl hlt
  · intro h
    cases h with
    | argument h =>
      simp only [kinds, refusedFirst_cons_iff, not_refusedFirst_nil, and_false, or_false] at h
      rcases h with h | ⟨⟨l, rfl⟩, h⟩
      · exact Or.inl h
      · exact Or.inr ⟨_, ⟨l, rfl, rfl⟩, Or.inl h⟩
    | @range l u _ harguments hlt =>
      cases harguments
      exact Or.inr ⟨_, ⟨l, rfl, rfl⟩, Or.inr ⟨_, ⟨u, rfl, rfl⟩, dif_neg hlt⟩⟩

/-- Arguments that are as many as the constraint accepts are refused for the first of them that is not of its
kind, and a range also for its order. -/
theorem check_eq_error_iff (h : c.accepts arguments.length = true) :
    r.check c arguments = .error cause ↔ c.Refuses r arguments cause := by
  have hone : c.takesFlag = false → c.arity = 1 → ∃ v, arguments = [v] := by
    intro hflag harity
    exact List.length_eq_one_iff.1 ((accepted_exactly hflag h).trans harity)
  cases c with
  | minLength | maxLength => exact check_lengthBound_eq_error_iff rfl h
  | email | integer =>
    rw [List.length_eq_zero_iff.1 (accepted_exactly rfl h), refuses_iff (by decide)]
    simp [Rule.check]
  | between =>
    obtain ⟨low, high, rfl⟩ := List.length_eq_two.1 (accepted_exactly rfl h)
    exact check_between_eq_error_iff
  | pattern =>
    obtain ⟨v, rfl⟩ := hone rfl rfl
    exact check_eq_error_iff_of_reader .text rfl (by decide) rfl Rule.pattern_eq_error_iff
  | enum =>
    obtain ⟨v, rfl⟩ := hone rfl rfl
    exact check_eq_error_iff_of_reader (fun names => .text (.enum names)) rfl (by decide) rfl
      Rule.names_eq_error_iff
  | elementType =>
    obtain ⟨v, rfl⟩ := hone rfl rfl
    exact check_eq_error_iff_of_reader (fun t => .array (.elementType t)) rfl (by decide) rfl
      Rule.elementType_eq_error_iff
  | lowerOrEqual | greaterOrEqual | equal | greaterThan | lowerThan =>
    obtain ⟨v, rfl⟩ := hone rfl rfl
    exact check_eq_error_iff_of_reader (fun x => .number (.compare _ x)) rfl (by decide) rfl
      Rule.number_eq_error_iff
  | minSize | maxSize | size =>
    obtain ⟨v, rfl⟩ := hone rfl rfl
    exact check_eq_error_iff_of_reader (fun n => .array _) rfl (by decide) rfl Rule.size_eq_error_iff

end Constraint

end

end FieldRules
