/-
Arguments by position. An argument list is looked at by index, and a look at an index that has to be there fails
when the list is too short (`PositionReader.run`). Which positions a constraint looks at is fixed by the constraint
(`Rule.reader`), and how many arguments it is given is tested before. `compile_inBounds` says that the two fit: no
look fails, so that compiling by position always has the result of `compile`; every argument is looked at unless one
before it is refused; and none can be left out of account, since null is refused in every position.
-/
import FieldRules.Pattern.Meaning
import FieldRules.Proofs.Compile.Refusal

namespace FieldRules

/-- A result, or nothing when an argument was looked for that is not there. -/
abbrev Attempt (α : Type) := ExceptT ConfigCause Option α

namespace Attempt

variable {α β : Type}

def of (x : Except ConfigCause α) : Attempt α :=
  ExceptT.mk (some x)

def beyond : Attempt α :=
  ExceptT.mk none

theorem of_ne_beyond {x : Except ConfigCause α} : of x ≠ beyond := by
  rintro ⟨⟩

theorem bind_of (x : Except ConfigCause α) (f : α → Except ConfigCause β) :
    (of x >>= fun a => of (f a)) = of (x >>= f) := by
  cases x <;> rfl

/-- A traversal of results has the result of the traversal. -/
theorem mapM_of {g : α → Attempt β} {f : α → Except ConfigCause β} (h : ∀ a, g a = of (f a)) (l : List α) :
    l.mapM g = of (l.mapM f) := by
  induction l with
  | nil => rfl
  | cons a l ih =>
    rw [List.mapM_cons, List.mapM_cons, h, ih, ← bind_of]
    refine congrArg _ (funext fun b => ?_)
    exact bind_of _ _

end Attempt

/-- A way to read a list of arguments, look by look. -/
inductive PositionReader (α : Type) where
  | done (result : Except ConfigCause α)
  /-- A look at an argument that has to be there. -/
  | need (i : Nat) (next : Json → PositionReader α)
  /-- A look at an argument that may be missing. -/
  | ask (i : Nat) (next : Option Json → PositionReader α)

namespace PositionReader

variable {α β : Type}

/-- Goes on with a result, or ends with its error. -/
def after (x : Except ConfigCause α) (next : α → PositionReader β) : PositionReader β :=
  match x with
  | .ok a => next a
  | .error cause => .done (.error cause)

def run : PositionReader α → List Json → Attempt α
  | done x, _ => .of x
  | need i next, arguments =>
    match arguments[i]? with
    | some v => (next v).run arguments
    | none => .beyond
  | ask i next, arguments => (next arguments[i]?).run arguments

/-- The positions where an argument has to be. -/
def needed : PositionReader α → List Json → List Nat
  | done _, _ => []
  | need i next, arguments =>
    i :: match arguments[i]? with
      | some v => (next v).needed arguments
      | none => []
  | ask i next, arguments => (next arguments[i]?).needed arguments

/-- The positions of the arguments that are looked at, in the order of the looks. -/
def examined : PositionReader α → List Json → List Nat
  | done _, _ => []
  | need i next, arguments =>
    match arguments[i]? with
    | some v => i :: (next v).examined arguments
    | none => []
  | ask i next, arguments =>
    match arguments[i]? with
    | some v => i :: (next (some v)).examined arguments
    | none => (next none).examined arguments

theorem after_ok (a : α) (next : α → PositionReader β) : after (.ok a) next = next a :=
  rfl

section
variable {i : Nat} {v : Json} {arguments : List Json} {next : Json → PositionReader α}

theorem run_need (h : arguments[i]? = some v) : (need i next).run arguments = (next v).run arguments := by
  rw [run, h]

theorem examined_need (h : arguments[i]? = some v) :
    (need i next).examined arguments = i :: (next v).examined arguments := by
  rw [examined, h]

end

/-- A reading has a result exactly if every argument is there that has to be. -/
theorem exists_run_iff {p : PositionReader α} {arguments : List Json} :
    (∃ x, p.run arguments = .of x) ↔ ∀ i ∈ p.needed arguments, i < arguments.length := by
  induction p with
  | done x => exact iff_of_true ⟨x, rfl⟩ (List.forall_mem_nil _)
  | need i next ih =>
    rw [run, needed, List.forall_mem_cons]
    cases hi : arguments[i]? with
    | some v => exact (ih v).trans (and_iff_right (List.getElem?_eq_some_iff.1 hi).1).symm
    | none =>
      have hlength := List.getElem?_eq_none_iff.1 hi
      exact iff_of_false (fun ⟨_, hx⟩ => Attempt.of_ne_beyond hx.symm) fun h => absurd h.1 (Nat.not_lt.2 hlength)
  | ask i next ih => exact ih _

end PositionReader

/-! ## The looks of the constraints -/

namespace Rule

open PositionReader

variable [PatternEngine] {α : Type} (r : Rule)

/-- One argument. -/
def oneReader (read : Json → Except ConfigCause α) (mk : α → Check) : PositionReader Check :=
  .need 0 fun v => .after (read v) fun a => .done (.ok (mk a))

/-- The bound of a length, and the flag behind the arguments that the constraint always takes. -/
def lengthReader (c : Constraint) (mk : Nat → Bool → TextCheck) : PositionReader Check :=
  .need 0 fun v => .after (r.size v) fun n =>
    .ask c.arity fun flag => .after (r.trimFlag flag.toList) fun b => .done (.ok (.text (mk n b)))

/-- Both ends of a range; the upper one is not looked at when the lower one is refused. -/
def rangeReader : PositionReader Check :=
  .need 0 fun low => .after (r.number low) fun _ =>
    .need 1 fun high => .after (r.range low high) fun k => .done (.ok (.number k))

/-- How the arguments of a constraint are looked at. -/
def reader : Constraint → PositionReader Check
  | .minLength => r.lengthReader .minLength .minLength
  | .maxLength => r.lengthReader .maxLength .maxLength
  | .pattern => oneReader r.pattern .text
  | .enum => oneReader r.names fun names => .text (.enum names)
  | .email => .done (.ok (.text .email))
  | .integer => .done (.ok (.number .integer))
  | .lowerOrEqual => oneReader r.number fun x => .number (.compare .atMost x)
  | .greaterOrEqual => oneReader r.number fun x => .number (.compare .atLeast x)
  | .equal => oneReader r.number fun x => .number (.compare .equal x)
  | .greaterThan => oneReader r.number fun x => .number (.compare .above x)
  | .lowerThan => oneReader r.number fun x => .number (.compare .below x)
  | .between => r.rangeReader
  | .elementType => oneReader r.elementType fun t => .array (.elementType t)
  | .minSize => oneReader r.size fun n => .array (.minSize n)
  | .maxSize => oneReader r.size fun n => .array (.maxSize n)
  | .size => oneReader r.size fun n => .array (.size n)

end Rule

namespace FieldSpec

/-- The type and its message, when there is an argument at all. -/
def typeReader (count : Nat) : PositionReader (FieldType × String) :=
  .need 0 fun v =>
    match v.text?.bind FieldType.ofName? with
    | none => .done (.error (.unknownType (shown v)))
    | some t =>
      if 2 < count then .done (.error (.argumentCount typeKey t "2" count))
      else .ask 1 fun message =>
        .after (requiredMessage typeKey .missingTypeMessage message) fun m => .done (.ok (t, m))

def gateReader (t : FieldType) (count : Nat) : PositionReader Gate :=
  if 1 < count then .done (.error (.argumentCount requiredKey t "1" count))
  else .ask 0 fun message =>
    .after (requiredMessage requiredKey .missingRequiredMessage message) fun m => .done (.ok (.required m))

def typeByPosition (f : FieldSpec) : Attempt (FieldType × String) :=
  match f.get? typeKey with
  | none => Attempt.of (.error .typeNotSpecified)
  | some arguments =>
    if arguments.isEmpty then Attempt.of (.error .typeNotSpecified)
    else (typeReader arguments.length).run arguments

def gateByPosition (t : FieldType) (f : FieldSpec) : Attempt Gate :=
  match f.get? requiredKey with
  | none => Attempt.of (.ok .optional)
  | some arguments => (gateReader t arguments.length).run arguments

def stepByPosition [PatternEngine] (t : FieldType) (key : String) (arguments : List Json) : Attempt Step :=
  if key = optionalKey then Attempt.of (.error (.reservedKey key))
  else match t.constraint? key with
    | none => Attempt.of (.error (.unknownConstraint key t))
    | some c =>
      match arguments.getLast? with
      | none => Attempt.of (.error (.argumentCount key t c.expectedLength 0))
      | some message =>
        if !c.accepts (arguments.length - 1) then
          Attempt.of (.error (.argumentCount key t c.expectedLength arguments.length))
        else match message with
          | .text message => do
            let check ← (Rule.reader ⟨key, t⟩ c).run arguments.dropLast
            pure ⟨key, check, message⟩
          | _ => Attempt.of (.error (.messageNotText key))

/-- The pipeline of a declaration whose arguments are looked at by position. -/
def compileByPosition [PatternEngine] (f : FieldSpec) : Attempt Pipeline := do
  let (t, message) ← f.typeByPosition
  let gate ← f.gateByPosition t
  let steps ← f.stepRules.mapM fun e => stepByPosition t e.1 e.2
  pure ⟨gate, t, ⟨typeKey, .type t, message⟩ :: steps⟩

end FieldSpec

/-! ## Constraints within bounds -/

/-- Null is of no kind, so it stands among the arguments of no check. -/
theorem Constraint.Reads.null_not_mem [PatternEngine] {c : Constraint} {arguments : List Json} {k : Check}
    (h : c.Reads arguments k) : .null ∉ arguments := by
  have hsize : ∀ {v n}, sizeOf? v = some n → Json.null ≠ v := by
    rintro v n hn rfl
    cases hn
  cases h with
  | length _ hn => simpa using hsize hn
  | lengthFlag _ hn => simpa using hsize hn
  | size _ hn => simpa using hsize hn
  | _ => simp

namespace Rule

open PositionReader

variable [PatternEngine] {r : Rule} {c : Constraint} {arguments : List Json}

/-- What holds of the looks at arguments that are as many as the constraint accepts. -/
structure InBounds (r : Rule) (c : Constraint) (arguments : List Json) : Prop where
  needed_lt : ∀ i ∈ (r.reader c).needed arguments, i < arguments.length
  run_eq : (r.reader c).run arguments = .of (r.check c arguments)
  /-- Of accepted arguments every one is looked at, from left to right. -/
  examined_of_ok : ∀ k, r.check c arguments = .ok k →
    (r.reader c).examined arguments = List.range arguments.length
  /-- An argument that is not looked at stands behind one whose refusal is the result. -/
  examined_or_refused : ∀ i < arguments.length, i ∉ (r.reader c).examined arguments →
    ∃ j < i, ∃ v kind cause, arguments[j]? = some v ∧ c.kinds[j]? = some kind ∧ kind.Refuses r v cause ∧
      r.check c arguments = .error cause
  null_refused : ∀ i < arguments.length, ∃ cause, r.check c (arguments.set i .null) = .error cause

/-- A reading that either looks at all arguments or ends with the refusal of the first one is within bounds. -/
theorem inBounds_of_examined (haccepts : c.accepts arguments.length = true)
    (hrun : (r.reader c).run arguments = .of (r.check c arguments))
    (hexamined : (r.reader c).examined arguments = List.range arguments.length ∨
      (r.reader c).examined arguments = [0] ∧ ∃ v kind cause, arguments.head? = some v ∧
        c.kinds.head? = some kind ∧ kind.Refuses r v cause ∧ r.check c arguments = .error cause) :
    InBounds r c arguments where
  needed_lt := exists_run_iff.1 ⟨_, hrun⟩
  run_eq := hrun
  examined_of_ok k hk := by
    rcases hexamined with h | ⟨-, v, kind, cause, -, -, -, herror⟩
    · exact h
    · cases hk.symm.trans herror
  examined_or_refused i hi hnot := by
    rcases hexamined with h | ⟨h, v, kind, cause, hv, hkind, hrefused, herror⟩
    · rw [h, List.mem_range] at hnot
      exact absurd hi hnot
    · rw [h, List.mem_singleton] at hnot
      refine ⟨0, Nat.pos_of_ne_zero hnot, v, kind, cause, ?_, ?_, hrefused, herror⟩
      · rw [← hv, List.head?_eq_getElem?]
      · rw [← hkind, List.head?_eq_getElem?]
  null_refused i hi := by
    rw [← List.length_set (i := i) (a := Json.null)] at haccepts
    cases hk : r.check c (arguments.set i .null) with
    | error cause => exact ⟨cause, rfl⟩
    | ok k => exact absurd (List.mem_set hi _) (check_eq_ok_iff.1 ⟨haccepts, hk⟩).null_not_mem

theorem inBounds_one {α : Type} {read : Json → Except ConfigCause α} {mk : α → Check} {v : Json}
    (haccepts : c.accepts 1 = true) (hreader : r.reader c = oneReader read mk)
    (hcheck : r.check c [v] = read v >>= fun a => .ok (mk a)) : InBounds r c [v] := by
  refine inBounds_of_examined haccepts ?_ (Or.inl ?_)
  · rw [hreader, hcheck, oneReader, run_need rfl]
    cases read v with
    | error cause => rfl
    | ok a => rfl
  · rw [hreader, oneReader, examined_need rfl]
    cases read v with
    | error cause => rfl
    | ok a => rfl

theorem inBounds_length {mk : Nat → Bool → TextCheck} (hc : c.lengthBound? = some mk)
    (haccepts : c.accepts arguments.length = true) : InBounds r c arguments := by
  have hreader : r.reader c = r.lengthReader c mk := by cases c <;> cases hc <;> rfl
  have harity : c.arity = 1 := by cases c <;> cases hc <;> rfl
  have hkinds : c.kinds = [.size, .flag] := by cases c <;> cases hc <;> rfl
  have hcheck : ∀ v flag, r.check c (v :: flag) =
      r.size v >>= fun n => r.trimFlag flag >>= fun b => .ok (.text (mk n b)) := by
    intro v flag
    cases c <;> cases hc <;> rfl
  rcases Constraint.accepted_length hc haccepts with ⟨v, rfl⟩ | ⟨v, w, rfl⟩
  · refine inBounds_of_examined haccepts ?_ (Or.inl ?_)
    · rw [hreader, hcheck, lengthReader, run_need rfl, harity]
      cases r.size v with
      | error cause => rfl
      | ok n => rfl
    · rw [hreader, lengthReader, examined_need rfl, harity]
      cases r.size v with
      | error cause => rfl
      | ok n => rfl
  · have hrun : (r.reader c).run [v, w] = .of (r.check c [v, w]) := by
      rw [hreader, hcheck, lengthReader, run_need rfl, harity]
      cases r.size v with
      | error cause => rfl
      | ok n =>
        show (after (r.trimFlag [w]) _).run [v, w] = .of (r.trimFlag [w] >>= _)
        cases r.trimFlag [w] with
        | error cause => rfl
        | ok b => rfl
    refine inBounds_of_examined haccepts hrun ?_
    rw [hreader, hkinds, hcheck, lengthReader, examined_need rfl, harity]
    cases hsize : r.size v with
    | error cause => exact Or.inr ⟨rfl, v, .size, cause, rfl, rfl, size_eq_error_iff.1 hsize, rfl⟩
    | ok n =>
      refine Or.inl ?_
      show 0 :: 1 :: (after (r.trimFlag [w]) _).examined [v, w] = [0, 1]
      cases r.trimFlag [w] with
      | error cause => rfl
      | ok b => rfl

theorem inBounds_range (low high : Json) : InBounds r .between [low, high] := by
  have hcheck : r.check .between [low, high] = r.range low high >>= fun k => .ok (.number k) := rfl
  have hreader : r.reader .between = r.rangeReader := rfl
  cases hlow : r.number low with
  | error cause =>
    have hrange : r.range low high = .error cause := by
      rw [range, hlow]
      rfl
    refine inBounds_of_examined rfl ?_ (Or.inr ⟨?_, low, .number, cause, rfl, rfl, number_eq_error_iff.1 hlow, ?_⟩)
    · rw [hreader, hcheck, rangeReader, run_need rfl, hlow, hrange]
      rfl
    · rw [hreader, rangeReader, examined_need rfl, hlow]
      rfl
    · rw [hcheck, hrange]
      rfl
  | ok lower =>
    refine inBounds_of_examined rfl ?_ (Or.inl ?_)
    · rw [hreader, hcheck, rangeReader, run_need rfl, hlow, after_ok, run_need rfl]
      cases r.range low high with
      | error cause => rfl
      | ok k => rfl
    · rw [hreader, rangeReader, examined_need rfl, hlow, after_ok, examined_need rfl]
      cases r.range low high with
      | error cause => rfl
      | ok k => rfl

theorem inBounds_none (haccepts : c.accepts 0 = true) {k : Check} (hreader : r.reader c = .done (.ok k))
    (hcheck : r.check c [] = .ok k) : InBounds r c [] :=
  inBounds_of_examined haccepts (by rw [hreader, hcheck]; rfl) (Or.inl (by rw [hreader]; rfl))

/-- As many arguments as the constraint accepts are as many as it looks at. -/
theorem inBounds_of_accepts (h : c.accepts arguments.length = true) : InBounds r c arguments := by
  have hone : c.takesFlag = false → c.arity = 1 → ∃ v, arguments = [v] := fun hflag harity =>
    List.length_eq_one_iff.1 ((Constraint.accepted_exactly hflag h).trans harity)
  cases c with
  | minLength | maxLength => exact inBounds_length rfl h
  | email | integer =>
    rw [List.length_eq_zero_iff.1 (Constraint.accepted_exactly rfl h)]
    exact inBounds_none rfl rfl rfl
  | between =>
    obtain ⟨low, high, rfl⟩ := List.length_eq_two.1 (Constraint.accepted_exactly rfl h)
    exact inBounds_range low high
  | _ =>
    obtain ⟨v, rfl⟩ := hone rfl rfl
    exact inBounds_one rfl rfl rfl

end Rule

/-! ## Compiling by position -/

namespace FieldSpec

open PositionReader

theorem run_gateReader (t : FieldType) (arguments : List Json) :
    (gateReader t arguments.length).run arguments =
      .of (if 1 < arguments.length then .error (.argumentCount requiredKey t "1" arguments.length)
        else requiredMessage requiredKey .missingRequiredMessage arguments.head? >>= fun m => .ok (.required m)) := by
  unfold gateReader
  split
  · rfl
  · rw [run, ← List.head?_eq_getElem?]
    cases requiredMessage requiredKey .missingRequiredMessage arguments.head? with
    | error cause => rfl
    | ok m => rfl

theorem run_typeReader (v : Json) (rest : List Json) :
    (typeReader (rest.length + 1)).run (v :: rest) =
      .of (match v.text?.bind FieldType.ofName? with
        | none => .error (.unknownType (shown v))
        | some t =>
          if 1 < rest.length then .error (.argumentCount typeKey t "2" (rest.length + 1))
          else requiredMessage typeKey .missingTypeMessage rest.head? >>= fun m => .ok (t, m)) := by
  rw [typeReader, run_need rfl]
  cases v.text?.bind FieldType.ofName? with
  | none => rfl
  | some t =>
    dsimp only
    by_cases h : 1 < rest.length
    · rw [if_pos h, if_pos (Nat.succ_lt_succ h)]
      rfl
    · rw [if_neg h, if_neg (mt Nat.lt_of_succ_lt_succ h), run, List.getElem?_cons_succ, ← List.head?_eq_getElem?]
      cases requiredMessage typeKey .missingTypeMessage rest.head? with
      | error cause => rfl
      | ok m => rfl

theorem typeByPosition_eq (f : FieldSpec) : f.typeByPosition = .of f.typeRule := by
  unfold typeByPosition typeRule
  cases f.get? typeKey with
  | none => rfl
  | some arguments =>
    cases arguments with
    | nil => rfl
    | cons v rest => exact run_typeReader v rest

theorem gateByPosition_eq (t : FieldType) (f : FieldSpec) : f.gateByPosition t = .of (f.gateRule t) := by
  unfold gateByPosition gateRule
  cases f.get? requiredKey with
  | none => rfl
  | some arguments => exact run_gateReader t arguments

theorem stepByPosition_eq [PatternEngine] (t : FieldType) (key : String) (arguments : List Json) :
    stepByPosition t key arguments = .of (stepRule t key arguments) := by
  unfold stepByPosition stepRule
  split
  · rfl
  · cases t.constraint? key with
    | none => rfl
    | some c =>
      cases arguments.getLast? with
      | none => rfl
      | some message =>
        by_cases haccepts : c.accepts (arguments.length - 1) = true
        · rw [← List.length_dropLast] at haccepts ⊢
          simp only [haccepts, Bool.not_true, Bool.false_eq_true, if_false]
          cases message with
          | text message =>
            dsimp only
            rw [(Rule.inBounds_of_accepts haccepts).run_eq]
            exact Attempt.bind_of _ _
          | _ => rfl
        · simp only [haccepts, Bool.not_false, if_true]

theorem compileByPosition_eq [PatternEngine] (f : FieldSpec) : f.compileByPosition = .of f.compile := by
  unfold compileByPosition compile
  rw [typeByPosition_eq, ← Attempt.bind_of]
  refine congrArg _ (funext fun ⟨t, message⟩ => ?_)
  have hsteps := Attempt.mapM_of (fun e : String × List Json => stepByPosition_eq t e.1 e.2) f.stepRules
  dsimp only
  rw [gateByPosition_eq, hsteps, ← Attempt.bind_of]
  refine congrArg _ (funext fun gate => ?_)
  exact Attempt.bind_of _ _

/-- Compiling never looks for an argument that is not there, and a rule that it takes has had every argument
before the message looked at. -/
theorem compile_inBounds [PatternEngine] (f : FieldSpec) (t : FieldType) (key : String) (arguments : List Json) :
    f.compileByPosition = .of f.compile ∧
    (∀ c, t.constraint? key = some c → c.accepts (arguments.length - 1) = true →
      Rule.InBounds ⟨key, t⟩ c arguments.dropLast) ∧
    ∀ st, stepRule t key arguments = .ok st → ∃ c, t.constraint? key = some c ∧
      (Rule.reader ⟨key, t⟩ c).examined arguments.dropLast = List.range (arguments.length - 1) := by
  refine ⟨compileByPosition_eq f, fun c _ haccepts => ?_, fun st hst => ?_⟩
  · exact Rule.inBounds_of_accepts (by rwa [List.length_dropLast])
  · cases stepRule_eq_ok_iff (e := (key, arguments)).1 hst with
    | @intro _ m c positional k hc hreads =>
      refine ⟨c, hc, ?_⟩
      rw [List.dropLast_concat, List.length_append, List.length_singleton, Nat.add_sub_cancel]
      exact (Rule.inBounds_of_accepts hreads.accepts).examined_of_ok k (hreads.check_eq_ok _)

/-- A bound with its flag is looked at in full; of a bound that is no size the flag is not looked at. -/
theorem compile_inBounds_sampleLength :
    (∃ c, FieldType.string.constraint? "min" = some c ∧
      (Rule.reader ⟨"min", .string⟩ c).examined [.number (.natural ⟨2, by decide⟩), .bool true] = List.range 2) ∧
    (Rule.reader ⟨"min", .string⟩ .minLength).examined [.text "2", .bool true] = [0] ∧
    Rule.check ⟨"min", .string⟩ .minLength [.text "2", .bool true] =
      .error (.invalidArgument "min" .string "a non-negative integer") :=
  ⟨(compile_inBounds .empty .string "min" [.number (.natural ⟨2, by decide⟩), .bool true, .text "m"]).2.2
    ⟨"min", .text (.minLength 2 true), "m"⟩ rfl, rfl, rfl⟩

end FieldSpec

end FieldRules
