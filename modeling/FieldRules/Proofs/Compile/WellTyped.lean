/-
What compiled fields look like. The checks are of three families, for texts, numbers and arrays, and each is
made for the values of one type (`Check.family?`). `Pipeline.TypedFor` says of a pipeline and its declaration
that the type check comes first, that there is one step for each of the rules behind it, in their order and
with their keys and messages, and that the checks of these steps are all of the family of the declared type.
The main statement is `compile_typed`: whatever a field compiles to is of this form. So a value that passes the
type check has the shape that the later checks look into, and none of them refuses it for its shape alone.
-/
import FieldRules.Pattern.Meaning
import FieldRules.Proofs.Compile.Field
import FieldRules.Proofs.Entries.Insertion
import Mathlib.Algebra.Group.Nat.Defs

namespace FieldRules

/-! ## Families of checks -/

namespace Check

/-- The type whose values a check is made for; the type check itself takes every value. -/
def family? : Check → Option FieldType
  | type _ => none
  | text _ => some .string
  | number _ => some .number
  | array _ => some .array

/-- The numbers that a check compares with, the lower one first. -/
def bounds : Check → List Binary64
  | number (.compare _ bound) => [bound]
  | number (.between lower upper _) => [lower, upper]
  | _ => []

/-- The check finds in the value what it looks into. -/
inductive Sees : Check → Json → Prop
  | type (t : FieldType) (v : Json) : Sees (type t) v
  | text (c : TextCheck) (s : String) : Sees (text c) (.text s)
  | number (c : NumberCheck) {v : Json} {x : Binary64} : v.asNumber = some x → Sees (number c) v
  | array (c : ArrayCheck) (items : List Json) : Sees (array c) (.list items)

/-- There are no checks for truth values and objects. -/
theorem ne_of_family? {k : Check} {t : FieldType} (h : k.family? = some t) : t ≠ .boolean ∧ t ≠ .object := by
  cases k with
  | type _ => cases h
  | text _ | number _ | array _ =>
    cases h
    exact ⟨by decide, by decide⟩

/-- The values of a type have the shape that the checks of its family look into. -/
theorem sees_of_admits {k : Check} {t : FieldType} {v : Json} (hk : k.family? = some t) (hv : t.admits v = true) :
    k.Sees v := by
  cases k with
  | type t => cases hk
  | text c =>
    cases hk
    cases v with
    | text s => exact .text c s
    | _ => cases hv
  | number c =>
    cases hk
    obtain ⟨x, hx⟩ := Option.isSome_iff_exists.1 hv
    exact .number c hx
  | array c =>
    cases hk
    cases v with
    | list items => exact .array c items
    | _ => cases hv

end Check

/-- The bits of the exponent are not all set, as they are for infinities and for what is no number. -/
def Binary64.IsFinite (x : Binary64) : Prop :=
  x.bits / 2 ^ 52 % 2 ^ 11 ≠ 2 ^ 11 - 1

theorem Binary64.isFinite (x : Binary64) : x.IsFinite := by
  have hrank : x.rank < 2047 * 2 ^ 52 := x.rank_lt
  unfold IsFinite bits
  cases x.neg with
  | false =>
    rw [if_neg Bool.false_ne_true]
    omega
  | true =>
    rw [if_pos rfl, show twoPow 63 = 2 ^ 63 from rfl]
    omega

/-! ## Constraints -/

namespace Constraint

theorem comparison?_fieldType {c : Constraint} {op : Comparison} (h : c.comparison? = some op) :
    c.fieldType = .number := by
  cases c <;> first | rfl | cases h

theorem Reads.family? [PatternEngine] {c : Constraint} {arguments : List Json} {k : Check} (h : c.Reads arguments k) :
    k.family? = some c.fieldType := by
  cases h with
  | length hc _ => cases c <;> cases hc <;> rfl
  | lengthFlag hc _ => cases c <;> cases hc <;> rfl
  | compare hc => rw [comparison?_fieldType hc]; rfl
  | size hc _ => cases c <;> cases hc <;> rfl
  | _ => rfl

/-- The ends of a range are in order. -/
theorem Reads.bounds_ordered [PatternEngine] {c : Constraint} {arguments : List Json} {k : Check}
    (h : c.Reads arguments k) :
    k.bounds.Pairwise (· < ·) := by
  cases h with
  | between hlt => exact List.pairwise_pair.2 hlt
  | compare _ => exact List.pairwise_singleton _ _
  | _ => exact List.Pairwise.nil

/-- The arguments of a constraint on numbers are the bounds of its check. -/
theorem Reads.bounds_eq [PatternEngine] {c : Constraint} {arguments : List Json} {k : Check} (h : c.Reads arguments k)
    (hc : c.fieldType = .number) :
    ∃ numbers : List Number, arguments = numbers.map .number ∧ k.bounds = numbers.map Number.toBinary64 := by
  have hfamily := h.family?
  rw [hc] at hfamily
  cases h with
  | integer => exact ⟨[], rfl, rfl⟩
  | @compare c op n _ => exact ⟨[n], rfl, rfl⟩
  | @between l u _ => exact ⟨[l, u], rfl, rfl⟩
  | _ => cases hfamily

end Constraint

/-! ## Steps and pipelines -/

/-- The step of a rule on a field of the type. -/
structure Step.TypedFor (t : FieldType) (e : String × List Json) (st : Step) : Prop where
  key : st.key = e.1
  message : e.2.getLast? = some (.text st.message)
  family : st.check.family? = some t
  /-- On a field of numbers the bounds are the arguments, each as the nearest number of the binary format. -/
  bounds : t = .number →
    ∃ numbers : List Number, e.2.dropLast = numbers.map .number ∧ st.check.bounds = numbers.map Number.toBinary64
  finite : ∀ x ∈ st.check.bounds, x.IsFinite
  ordered : st.check.bounds.Pairwise (· < ·)

/-- The pipeline of a declared field. -/
structure Pipeline.TypedFor (f : FieldSpec) (p : Pipeline) : Prop where
  /-- The type check comes first, then one step for each rule other than the type and the gate. -/
  steps : ∃ message later, p.steps = ⟨typeKey, .type p.type, message⟩ :: later ∧
    f.get? typeKey = some [.text p.type.name, .text message] ∧
    List.Forall₂ (Step.TypedFor p.type) (f.toList.filter fun e => e.1 ≠ typeKey ∧ e.1 ≠ requiredKey) later ∧
    (p.type = .boolean ∨ p.type = .object → later = [])
  gate : p.isRequired = f.contains requiredKey
  stepNames_length : p.stepNames.length = p.stepCount
  stepCount : p.stepCount = if p.isRequired then f.size else f.size + 1
  /-- What passes the type check has the shape that each check looks into. -/
  sees : ∀ v, (Check.type p.type).passes v = true → ∀ st ∈ p.steps, st.check.Sees v

namespace FieldSpec

variable {f : FieldSpec} {t : FieldType}

theorem MakesStep.typed [PatternEngine] {e : String × List Json} {st : Step} (h : MakesStep t e st) :
    st.TypedFor t e := by
  cases h with
  | @intro key m c positional k hc hk =>
    obtain ⟨rfl, -⟩ := FieldType.constraint?_eq_some_iff.1 hc
    exact {
      key := rfl
      message := List.getLast?_concat
      family := hk.family?
      bounds := fun hnumber => by
        rw [List.dropLast_concat]
        exact hk.bounds_eq hnumber
      finite := fun x _ => x.isFinite
      ordered := hk.bounds_ordered }

theorem eq_nil_of_makesSteps [PatternEngine] {rules : List (String × List Json)} {steps : List Step}
    (h : List.Forall₂ (MakesStep t) rules steps) (ht : t = .boolean ∨ t = .object) : steps = [] := by
  cases h with
  | nil => rfl
  | cons hstep _ =>
    obtain ⟨hboolean, hobject⟩ := Check.ne_of_family? hstep.typed.family
    exact (ht.elim hboolean hobject).elim

theorem sees_of_typed [PatternEngine] {rules : List (String × List Json)} {steps : List Step}
    (h : List.Forall₂ (Step.TypedFor t) rules steps) {v : Json} (hv : t.admits v = true) :
    ∀ st ∈ steps, st.check.Sees v := by
  induction h with
  | nil =>
    intro st hst
    cases hst
  | cons hstep _ ih => exact List.forall_mem_cons.2 ⟨Check.sees_of_admits hstep.family hv, ih⟩

/-! ## Counting -/

theorem keys_stepRules : f.stepRules.map Prod.fst = (f.keys.erase requiredKey).erase typeKey := by
  have hnodup : f.keys.Nodup := f.nodup
  rw [(hnodup.erase _).erase_eq_filter, hnodup.erase_eq_filter, List.filter_filter, Entries.keys, List.filter_map]
  refine congrArg _ (List.filter_congr fun e _ => ?_)
  rw [Bool.eq_iff_iff]
  simp

/-- The rules are the type, the gate if there is one, and those that make steps of their own. -/
theorem size_eq_of_type (htype : typeKey ∈ f.keys) :
    f.size = f.stepRules.length + (if f.contains requiredKey then 1 else 0) + 1 := by
  have hkeys := congrArg List.length (keys_stepRules (f := f))
  have hpos := List.length_pos_of_mem htype
  rw [List.length_map, List.length_erase_of_mem ((List.mem_erase_of_ne (by decide)).2 htype), List.length_erase] at hkeys
  have hsize : f.size = f.keys.length := (List.length_map _).symm
  by_cases hgate : requiredKey ∈ f.keys
  · -- the type and the gate are two different entries
    have htwo := List.length_pos_of_mem ((List.mem_erase_of_ne (by decide : typeKey ≠ requiredKey)).2 htype)
    rw [List.length_erase_of_mem hgate] at htwo
    rw [if_pos hgate] at hkeys
    rw [if_pos (Entries.contains_iff.2 hgate)]
    omega
  · rw [if_neg hgate] at hkeys
    rw [if_neg (mt Entries.contains_iff.1 hgate)]
    omega

theorem gate_isRequired {g : Gate} (h : f.gateRule t = .ok g) : g.isRequired = f.contains requiredKey := by
  rcases gateRule_eq_ok_iff.1 h with ⟨hget, rfl⟩ | ⟨m, hget, -, rfl⟩
  · rw [Entries.contains, hget]
    rfl
  · rw [Entries.contains, hget]
    rfl

/-! ## Whatever compiles -/

/-- A field compiles to a pipeline of its declared type. -/
theorem compile_typed [PatternEngine] {p : Pipeline} (h : f.compile = .ok p) : p.TypedFor f := by
  obtain ⟨t, m, g, later, ⟨htype, -⟩, hgate, hsteps, rfl⟩ := compile_eq_ok_iff.1 h
  have htyped : List.Forall₂ (Step.TypedFor t) f.stepRules later := hsteps.imp fun _ _ hstep => hstep.typed
  have hkey : typeKey ∈ f.keys := List.mem_map_of_mem (Entries.mem_of_lookup htype)
  have hrequired : g.isRequired = f.contains requiredKey := gate_isRequired hgate
  have hcount := size_eq_of_type hkey
  rw [htyped.length_eq, ← hrequired] at hcount
  refine ⟨⟨m, later, rfl, htype, htyped, eq_nil_of_makesSteps hsteps⟩, hrequired, ?_, ?_, fun v hv st hst => ?_⟩
  · simp only [Pipeline.stepNames, Pipeline.stepCount, List.length_cons, List.length_map]
  · show later.length + 1 + 1 = if g.isRequired then f.size else f.size + 1
    rw [hcount]
    split
    · rfl
    · rfl
  · rcases List.mem_cons.1 hst with rfl | hst
    · exact .type t v
    · exact sees_of_typed htyped hv st hst

/-- A required field of numbers with a range from negative zero to one. -/
def sampleRate : FieldSpec :=
  Entries.ofList
    [("btw", [.number (.real (Binary64.zero true)), .ofNat 1, .text "out of range"]),
     (requiredKey, [.text "missing"]), (typeKey, [.text "number", .text "no number"]), ("integer", [.text "no integer"])]

theorem compile_typed_sampleRate : ∃ p, sampleRate.compile = .ok p ∧ p.TypedFor sampleRate ∧
    p.stepNames = ["required", "type", "btw", "integer"] ∧ p.stepCount = sampleRate.size ∧
    (Check.type p.type).passes (.text " 0.5 ") = true :=
  ⟨_, rfl, compile_typed rfl, rfl, rfl, rfl⟩

end FieldSpec

end FieldRules
