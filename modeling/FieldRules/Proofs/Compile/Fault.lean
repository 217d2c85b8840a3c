/-
Which mistake of a declaration is reported. The parts of a declaration are looked at in a fixed order: the type
rule, the gate rule, then the other rules as they were declared; and within each part there is an order too. A
derivation of `FirstFault` names the first part with a fault, with everything before it in order. The main statement
is `compile_firstFault`: this is the mistake that a declaration without a pipeline is reported for, it names the
part that it is found in, and nothing behind that part has a say in it.
-/
import FieldRules.Pattern.Meaning
import FieldRules.Proofs.Compile.Change
import FieldRules.Proofs.Compile.Refusal

namespace FieldRules

/-! ## Keys and lengths of a mistake -/

/-- The key of the rule that a mistake is found in. Where the mistake does not hold it, its message speaks of it. -/
def ConfigCause.key : ConfigCause → String
  | typeNotSpecified | unknownType _ | missingTypeMessage => typeKey
  | missingRequiredMessage => requiredKey
  | reservedKey key => key
  | unknownConstraint key _ => key
  | argumentCount key _ _ _ => key
  | messageNotText key => key
  | invalidArgument key _ _ => key
  | invalidPattern _ _ => Constraint.pattern.key
  | invalidRange key _ _ => key

/-- The words of a text that are numbers. -/
def namedNumbers (s : String) : List Nat :=
  ((Text.splitAt ' ' s.toList).filter fun word => !word.isEmpty && word.all Char.isDigit).map Decimal.digitsValue

/-- The lengths that a constraint names are those of the lists that it takes, with the message. -/
theorem Constraint.mem_namedNumbers_expectedLength {c : Constraint} {n : Nat} :
    n ∈ namedNumbers c.expectedLength ↔ 0 < n ∧ c.TakesCount (n - 1) := by
  have hnamed : namedNumbers c.expectedLength =
      if c.takesFlag then [c.arity + 1, c.arity + 2] else [c.arity + 1] := by
    cases c <;> decide
  rw [hnamed, takesCount_iff, accepts_iff]
  cases c.takesFlag with
  | true =>
    rw [if_pos rfl, List.mem_pair]
    simp only [true_and]
    omega
  | false =>
    rw [if_neg Bool.false_ne_true, List.mem_singleton]
    simp
    omega

/-! ## Faults of the parts -/

/-- What is said of the list that should hold the message of the type or of the gate, and no more than that. -/
inductive MessageFault (key : String) (missing : ConfigCause) : List Json → ConfigCause → Prop
  | absent : MessageFault key missing [] missing
  | null : MessageFault key missing [.null] missing
  | empty : MessageFault key missing [.text ""] missing
  | notText {v : Json} : v ≠ .null → (∀ s, v ≠ .text s) → MessageFault key missing [v] (.messageNotText key)

/-- What is said of the arguments under the type key, or of there being none. -/
inductive TypeFault : Option (List Json) → ConfigCause → Prop
  | missing : TypeFault none .typeNotSpecified
  | empty : TypeFault (some []) .typeNotSpecified
  | unknown {v : Json} {rest : List Json} :
      (∀ t : FieldType, v ≠ .text t.name) → TypeFault (some (v :: rest)) (.unknownType (shown v))
  | count {t : FieldType} {rest : List Json} :
      1 < rest.length → TypeFault (some (.text t.name :: rest)) (.argumentCount typeKey t "2" (rest.length + 1))
  | message {t : FieldType} {rest : List Json} {cause : ConfigCause} :
      MessageFault typeKey .missingTypeMessage rest cause → TypeFault (some (.text t.name :: rest)) cause

/-- What is said of the arguments under the gate key, on a field of the type. -/
inductive GateFault (t : FieldType) : Option (List Json) → ConfigCause → Prop
  | count {arguments : List Json} :
      1 < arguments.length → GateFault t (some arguments) (.argumentCount requiredKey t "1" arguments.length)
  | message {arguments : List Json} {cause : ConfigCause} :
      MessageFault requiredKey .missingRequiredMessage arguments cause → GateFault t (some arguments) cause

/-- What is said of another rule, on a field of the type: each fault stands behind those that would be found
before it. -/
inductive RuleFault [PatternEngine] (t : FieldType) (key : String) (arguments : List Json) : ConfigCause → Prop
  | reserved : key = optionalKey → RuleFault t key arguments (.reservedKey key)
  | unknown : key ≠ optionalKey → (∀ c : Constraint, c.fieldType = t → c.key ≠ key) →
      RuleFault t key arguments (.unknownConstraint key t)
  | count {c : Constraint} : c.fieldType = t → c.key = key →
      (∀ positional message, arguments = positional ++ [message] → ¬ c.TakesCount positional.length) →
      RuleFault t key arguments (.argumentCount key t c.expectedLength arguments.length)
  | message {c : Constraint} {positional : List Json} {v : Json} : c.fieldType = t → c.key = key →
      arguments = positional ++ [v] → c.TakesCount positional.length → (∀ m, v ≠ .text m) →
      RuleFault t key arguments (.messageNotText key)
  | argument {c : Constraint} {positional : List Json} {m : String} {cause : ConfigCause} :
      c.fieldType = t → c.key = key → arguments = positional ++ [.text m] → c.TakesCount positional.length →
      c.Refuses ⟨key, t⟩ positional cause → RuleFault t key arguments cause

/-! ## Messages -/

/-- The message is looked at when the list holds nothing else. -/
theorem requiredMessage_eq_error_iff {key : String} {missing cause : ConfigCause} {rest : List Json}
    (h : rest.length ≤ 1) :
    requiredMessage key missing rest.head? = .error cause ↔ MessageFault key missing rest cause := by
  match rest, h with
  | [], _ =>
    constructor
    · intro he; cases he; exact .absent
    · intro he; cases he; rfl
  | [v], _ =>
    constructor
    · intro he
      simp only [List.head?_cons, requiredMessage] at he
      split at he
      · next hnone => cases hnone
      · next hnull => cases hnull; cases he; exact .null
      · next s htext =>
        cases htext
        split at he
        · next hs => cases he; rw [String.isEmpty_iff.1 hs]; exact .empty
        · cases he
      · next v' hnull htext hv =>
        cases hv
        cases he
        exact .notText hnull htext
    · intro he
      cases he with
      | null => rfl
      | empty => rfl
      | notText hnull htext =>
        cases v with
        | null => exact absurd rfl hnull
        | text s => exact absurd rfl (htext s)
        | _ => rfl

theorem MessageFault.length_le {key : String} {missing cause : ConfigCause} {rest : List Json}
    (h : MessageFault key missing rest cause) : rest.length ≤ 1 := by
  cases h with
  | absent => exact Nat.zero_le 1
  | null | empty | notText _ _ => exact le_rfl

namespace FieldSpec

/-- The rule of a field of the type is in order. -/
def Accepts [PatternEngine] (t : FieldType) (e : String × List Json) : Prop :=
  ∃ c : Constraint, c.fieldType = t ∧ c.key = e.1 ∧ c.Takes e.2

/-- The first part with a fault, by its key, and what is said of it. -/
inductive FirstFault [PatternEngine] (f : FieldSpec) : String → ConfigCause → Prop
  | type {cause : ConfigCause} : TypeFault (f.get? typeKey) cause → FirstFault f typeKey cause
  | gate {t : FieldType} {m : String} {cause : ConfigCause} :
      f.get? typeKey = some [.text t.name, .text m] → m ≠ "" →
      GateFault t (f.get? requiredKey) cause → FirstFault f requiredKey cause
  | rule {t : FieldType} {m key : String} {arguments : List Json} {before after : List (String × List Json)}
      {cause : ConfigCause} :
      f.get? typeKey = some [.text t.name, .text m] → m ≠ "" →
      (∀ arguments, f.get? requiredKey = some arguments → ∃ m, m ≠ "" ∧ arguments = [.text m]) →
      f.stepRules = before ++ (key, arguments) :: after → (∀ e ∈ before, Accepts t e) →
      RuleFault t key arguments cause → FirstFault f key cause

/-! ## Errors of the parts -/

variable {f f' : FieldSpec} {t : FieldType} {key : String} {arguments : List Json} {cause : ConfigCause}

/-- The type that a value names. -/
theorem bind_ofName?_eq_some_iff {v : Json} : v.text?.bind FieldType.ofName? = some t ↔ v = .text t.name := by
  rw [Option.bind_eq_some_iff]
  simp only [Json.text?_eq_some_iff, FieldType.ofName?_eq_some_iff, exists_eq_right]

theorem bind_ofName?_eq_none_iff {v : Json} :
    v.text?.bind FieldType.ofName? = none ↔ ∀ t : FieldType, v ≠ .text t.name := by
  simp only [Option.eq_none_iff_forall_ne_some, ne_eq, bind_ofName?_eq_some_iff]

theorem typeRule_eq_error_iff : f.typeRule = .error cause ↔ TypeFault (f.get? typeKey) cause := by
  unfold typeRule
  generalize f.get? typeKey = declared
  constructor
  · intro h
    split at h
    · cases h; exact .missing
    · cases h; exact .empty
    · next v rest =>
      split at h
      · next hnone => cases h; exact .unknown (bind_ofName?_eq_none_iff.1 hnone)
      · next t ht =>
        rw [bind_ofName?_eq_some_iff.1 ht]
        split at h
        · next hlen => cases h; exact .count hlen
        · next hlen =>
          rcases bind_eq_error_iff.1 h with h | ⟨_, _, h⟩
          · exact .message ((requiredMessage_eq_error_iff (not_lt.1 hlen)).1 h)
          · cases h
  · intro h
    cases h with
    | missing => rfl
    | empty => rfl
    | unknown hv => simp only [bind_ofName?_eq_none_iff.2 hv]
    | count hlen =>
      simp only [bind_ofName?_eq_some_iff.2 rfl]
      exact if_pos hlen
    | message hmessage =>
      have hlen := hmessage.length_le
      simp only [bind_ofName?_eq_some_iff.2 rfl]
      rw [if_neg (not_lt.2 hlen)]
      exact bind_eq_error_iff.2 (Or.inl ((requiredMessage_eq_error_iff hlen).2 hmessage))

theorem gateRule_eq_error_iff : f.gateRule t = .error cause ↔ GateFault t (f.get? requiredKey) cause := by
  unfold gateRule
  generalize f.get? requiredKey = declared
  constructor
  · intro h
    split at h
    · cases h
    · next arguments =>
      split at h
      · next hlen => cases h; exact .count hlen
      · next hlen =>
        rcases bind_eq_error_iff.1 h with h | ⟨_, _, h⟩
        · exact .message ((requiredMessage_eq_error_iff (not_lt.1 hlen)).1 h)
        · cases h
  · intro h
    cases h with
    | count hlen => exact if_pos hlen
    | message hmessage =>
      have hlen := hmessage.length_le
      simp only
      rw [if_neg (not_lt.2 hlen)]
      exact bind_eq_error_iff.2 (Or.inl ((requiredMessage_eq_error_iff hlen).2 hmessage))

theorem constraint?_eq_none_iff :
    t.constraint? key = none ↔ ∀ c : Constraint, c.fieldType = t → c.key ≠ key := by
  simp only [Option.eq_none_iff_forall_ne_some, ne_eq, FieldType.constraint?_eq_some_iff, not_and]

theorem ne_optionalKey {c : Constraint} (hc : t.constraint? key = some c) : key ≠ optionalKey := by
  rintro rfl
  rw [FieldType.constraint?_optionalKey] at hc
  cases hc

variable [PatternEngine]

section
variable {c : Constraint} {positional : List Json}

theorem stepRule_of_count (hc : t.constraint? key = some c)
    (h : ∀ positional message, arguments = positional ++ [message] → ¬ c.TakesCount positional.length) :
    stepRule t key arguments = .error (.argumentCount key t c.expectedLength arguments.length) := by
  unfold stepRule
  rw [if_neg (ne_optionalKey hc)]
  simp only [hc]
  split
  · next hlast => rw [List.getLast?_eq_none_iff.1 hlast]; rfl
  · next message hlast =>
    obtain ⟨positional, rfl⟩ := List.getLast?_eq_some_iff.1 hlast
    have hcount := h positional message rfl
    rw [Constraint.takesCount_iff, Bool.not_eq_true] at hcount
    rw [List.length_append, List.length_singleton, Nat.add_sub_cancel, hcount]
    rfl

theorem stepRule_concat (hc : t.constraint? key = some c) (h : c.TakesCount positional.length) (v : Json) :
    stepRule t key (positional ++ [v]) = match v with
      | .text m => Rule.check ⟨key, t⟩ c positional >>= fun k => .ok ⟨key, k, m⟩
      | _ => .error (.messageNotText key) := by
  unfold stepRule
  rw [if_neg (ne_optionalKey hc)]
  simp only [hc, List.getLast?_concat, List.length_append, List.length_singleton, Nat.add_sub_cancel,
    List.dropLast_concat, Constraint.takesCount_iff.1 h]
  cases v with
  | _ => rfl

/-- A rule with a fault makes no step, and its fault is the error. -/
theorem stepRule_of_ruleFault (h : RuleFault t key arguments cause) : stepRule t key arguments = .error cause := by
  cases h with
  | reserved hkey => exact if_pos hkey
  | unknown hkey hnone =>
    unfold stepRule
    rw [if_neg hkey, constraint?_eq_none_iff.2 hnone]
  | count htype hname hcount => exact stepRule_of_count (FieldType.constraint?_eq_some_iff.2 ⟨htype, hname⟩) hcount
  | @message c positional v htype hname harguments hcount hv =>
    rw [harguments, stepRule_concat (FieldType.constraint?_eq_some_iff.2 ⟨htype, hname⟩) hcount]
    cases v with
    | text m => exact absurd rfl (hv m)
    | _ => rfl
  | argument htype hname harguments hcount hrefused =>
    rw [harguments, stepRule_concat (FieldType.constraint?_eq_some_iff.2 ⟨htype, hname⟩) hcount]
    exact bind_ok_eq_error_iff.2 ((Constraint.check_eq_error_iff (Constraint.takesCount_iff.1 hcount)).2 hrefused)

/-- A rule that makes no step has a fault. -/
theorem exists_ruleFault (h : stepRule t key arguments = .error cause) : ∃ cause, RuleFault t key arguments cause := by
  by_cases hkey : key = optionalKey
  · exact ⟨_, .reserved hkey⟩
  cases hc : t.constraint? key with
  | none => exact ⟨_, .unknown hkey (constraint?_eq_none_iff.1 hc)⟩
  | some c =>
    obtain ⟨htype, hname⟩ := FieldType.constraint?_eq_some_iff.1 hc
    by_cases hcount : ∃ positional message, arguments = positional ++ [message] ∧ c.TakesCount positional.length
    · obtain ⟨positional, message, rfl, hcount⟩ := hcount
      by_cases hmessage : ∃ m, message = .text m
      · obtain ⟨m, rfl⟩ := hmessage
        rw [stepRule_concat hc hcount] at h
        have hcheck := bind_ok_eq_error_iff.1 h
        rw [Constraint.check_eq_error_iff (Constraint.takesCount_iff.1 hcount)] at hcheck
        exact ⟨_, .argument htype hname rfl hcount hcheck⟩
      · exact ⟨_, .message htype hname rfl hcount fun m hm => hmessage ⟨m, hm⟩⟩
    · exact ⟨_, .count htype hname fun positional message harguments htakes =>
        hcount ⟨positional, message, harguments, htakes⟩⟩

theorem stepRule_eq_error_iff : stepRule t key arguments = .error cause ↔ RuleFault t key arguments cause := by
  refine ⟨fun h => ?_, stepRule_of_ruleFault⟩
  obtain ⟨cause', hfault⟩ := exists_ruleFault h
  rw [stepRule_of_ruleFault hfault] at h
  cases h
  exact hfault

end

/-! ## The error of a declaration -/

theorem exists_stepRule_iff {e : String × List Json} : (∃ st, stepRule t e.1 e.2 = .ok st) ↔ Accepts t e := by
  simp only [stepRule_eq_ok_iff]
  exact exists_step_iff

/-- A declaration is reported for its first fault. -/
theorem compile_eq_error_iff : f.compile = .error cause ↔ ∃ key, f.FirstFault key cause := by
  unfold compile
  rw [bind_eq_error_iff, typeRule_eq_error_iff]
  constructor
  · rintro (h | ⟨⟨t, m⟩, htype, h⟩)
    · exact ⟨_, .type h⟩
    · obtain ⟨htype, hm⟩ := typeRule_eq_ok_iff.1 htype
      rcases bind_eq_error_iff.1 h with h | ⟨g, hgate, h⟩
      · exact ⟨_, .gate htype hm (gateRule_eq_error_iff.1 h)⟩
      · rw [bind_ok_eq_error_iff, mapM_eq_error_iff] at h
        obtain ⟨before, ⟨key, arguments⟩, after, hrules, hbefore, h⟩ := h
        refine ⟨key, .rule htype hm (exists_gate_iff.1 ⟨g, hgate⟩) hrules ?_ (stepRule_eq_error_iff.1 h)⟩
        exact fun e he => exists_stepRule_iff.1 (hbefore e he)
  · rintro ⟨key, h⟩
    cases h with
    | type h => exact Or.inl h
    | gate htype hm h =>
      refine Or.inr ⟨_, typeRule_eq_ok_iff.2 ⟨htype, hm⟩, ?_⟩
      exact bind_eq_error_iff.2 (Or.inl (gateRule_eq_error_iff.2 h))
    | @rule t m key arguments before after _ htype hm hgate hrules hbefore h =>
      obtain ⟨g, hg⟩ := exists_gate_iff.2 hgate
      refine Or.inr ⟨_, typeRule_eq_ok_iff.2 ⟨htype, hm⟩, bind_eq_error_iff.2 (Or.inr ⟨g, hg, ?_⟩)⟩
      rw [bind_ok_eq_error_iff, mapM_eq_error_iff]
      refine ⟨before, (key, arguments), after, hrules, ?_, stepRule_eq_error_iff.2 h⟩
      exact fun e he => exists_stepRule_iff.2 (hbefore e he)

end FieldSpec

/-! ## What an error names -/

section
variable {t : FieldType} {key : String} {arguments : List Json} {cause : ConfigCause}

/-- A single argument is refused in one way, but for texts that are no patterns. -/
theorem RefusedFirst.cause_eq [PatternEngine] {r : Rule} {kinds : List ArgumentKind}
    (h : RefusedFirst r kinds arguments cause) :
    (∃ expected, cause = .invalidArgument r.key r.type expected) ∨
      ArgumentKind.pattern ∈ kinds ∧ ∃ s e, cause = .invalidPattern s e := by
  induction h with
  | here h =>
    cases h with
    | fault _ => exact Or.inr ⟨List.mem_cons_self, _, _, rfl⟩
    | other _ _ => exact Or.inl ⟨_, rfl⟩
  | later _ _ ih => exact ih.imp_right (And.imp_left (List.mem_cons_of_mem _))

theorem Constraint.eq_pattern_of_mem_kinds {c : Constraint} (h : ArgumentKind.pattern ∈ c.kinds) : c = pattern := by
  cases c <;> first | rfl | simp [kinds] at h

theorem MessageFault.cause_eq {missing : ConfigCause} (h : MessageFault key missing arguments cause) :
    cause = missing ∨ cause = .messageNotText key := by
  cases h with
  | absent | null | empty => exact Or.inl rfl
  | notText _ _ => exact Or.inr rfl

theorem TypeFault.key_eq {declared : Option (List Json)} (h : TypeFault declared cause) : cause.key = typeKey := by
  cases h with
  | missing | empty | unknown _ | count _ => rfl
  | message h => rcases h.cause_eq with rfl | rfl <;> rfl

theorem GateFault.key_eq {declared : Option (List Json)} (h : GateFault t declared cause) :
    cause.key = requiredKey := by
  cases h with
  | count _ => rfl
  | message h => rcases h.cause_eq with rfl | rfl <;> rfl

theorem RuleFault.key_eq [PatternEngine] (h : RuleFault t key arguments cause) : cause.key = key := by
  cases h with
  | reserved _ | unknown _ _ | count _ _ _ | message _ _ _ _ _ => rfl
  | argument _ hname _ _ h =>
    cases h with
    | range _ _ _ => rfl
    | argument h =>
      rcases h.cause_eq with ⟨expected, rfl⟩ | ⟨hpattern, s, e, rfl⟩
      · rfl
      · rw [← hname, Constraint.eq_pattern_of_mem_kinds hpattern]
        rfl

variable {expected : String} {found : Nat}

theorem TypeFault.count_not_mem {declared : Option (List Json)}
    (h : TypeFault declared (.argumentCount key t expected found)) :
    ∃ arguments, declared = some arguments ∧ found = arguments.length ∧ found ∉ namedNumbers expected := by
  cases h with
  | @count _ rest hlen =>
    refine ⟨_, rfl, rfl, ?_⟩
    rw [show namedNumbers "2" = [2] by decide, List.mem_singleton]
    omega
  | message h => rcases h.cause_eq with h | h <;> cases h

theorem GateFault.count_not_mem {declared : Option (List Json)} {t' : FieldType}
    (h : GateFault t' declared (.argumentCount key t expected found)) :
    ∃ arguments, declared = some arguments ∧ found = arguments.length ∧ found ∉ namedNumbers expected := by
  cases h with
  | @count arguments hlen =>
    refine ⟨_, rfl, rfl, ?_⟩
    rw [show namedNumbers "1" = [1] by decide, List.mem_singleton]
    omega
  | message h => rcases h.cause_eq with h | h <;> cases h

theorem RuleFault.count_not_mem [PatternEngine] {t' : FieldType} {key' : String}
    (h : RuleFault t' key' arguments (.argumentCount key t expected found)) :
    found = arguments.length ∧ found ∉ namedNumbers expected := by
  cases h with
  | @count c htype hname hcount =>
    refine ⟨rfl, fun hmem => ?_⟩
    obtain ⟨hpos, htakes⟩ := Constraint.mem_namedNumbers_expectedLength.1 hmem
    -- a list of one of these lengths has a message, with as many arguments before it as the constraint takes
    rcases List.eq_nil_or_concat arguments with rfl | ⟨positional, message, rfl⟩
    · exact lt_irrefl 0 hpos
    · rw [List.length_concat, Nat.add_sub_cancel] at htakes
      exact hcount positional message (List.concat_eq_append ..) htakes
  | argument _ _ _ _ h =>
    cases h with
    | argument h => rcases h.cause_eq with ⟨_, h⟩ | ⟨_, _, _, h⟩ <;> cases h

end

namespace FieldSpec

variable {f f' : FieldSpec} {key : String} {cause : ConfigCause}

theorem FirstFault.key_eq [PatternEngine] (h : f.FirstFault key cause) : cause.key = key := by
  cases h with
  | type h => exact h.key_eq
  | gate _ _ h => exact h.key_eq
  | rule _ _ _ _ _ h => exact h.key_eq

/-- What stands among the other rules stands under its key. -/
theorem get?_of_stepRules {arguments : List Json} {before after : List (String × List Json)}
    (h : f.stepRules = before ++ (key, arguments) :: after) : f.get? key = some arguments := by
  have hmem : (key, arguments) ∈ f.stepRules := by
    rw [h]
    exact List.mem_append_right _ List.mem_cons_self
  exact (Entries.lookup_eq_some_iff_mem f.nodup).2 (mem_stepRules.1 hmem).1

/-- A count that is reported is the length of the list, and not one of the lengths that are expected. -/
theorem FirstFault.count_not_mem [PatternEngine] {t : FieldType} {key' expected : String} {found : Nat}
    (h : f.FirstFault key (.argumentCount key' t expected found)) :
    ∃ arguments, f.get? key = some arguments ∧ found = arguments.length ∧ found ∉ namedNumbers expected := by
  cases h with
  | type h => exact h.count_not_mem
  | gate _ _ h => exact h.count_not_mem
  | rule _ _ _ hrules _ h => exact ⟨_, get?_of_stepRules hrules, h.count_not_mem⟩

/-! ## What an error depends on -/

/-- The declarations have the same type rule and the same gate rule, and the same other rules up to the one under
the key, if it is another one. -/
structure SameUpTo (key : String) (f f' : FieldSpec) : Prop where
  type : f'.get? typeKey = f.get? typeKey
  gate : f'.get? requiredKey = f.get? requiredKey
  rules : key ≠ typeKey → key ≠ requiredKey → ∃ before arguments after after',
    f.stepRules = before ++ (key, arguments) :: after ∧ f'.stepRules = before ++ (key, arguments) :: after'

/-- No key stands twice among the other rules, so what stands before it is said by the key. -/
theorem takeWhile_stepRules {arguments : List Json} {before after : List (String × List Json)}
    (h : f.stepRules = before ++ (key, arguments) :: after) :
    f.stepRules.takeWhile (fun e => e.1 ≠ key) = before ∧
      f.stepRules.dropWhile (fun e => e.1 ≠ key) = (key, arguments) :: after := by
  have hnodup : (f.stepRules.map Prod.fst).Nodup := f.nodup.sublist (List.filter_sublist.map _)
  have hbefore : ∀ e ∈ before, decide (e.1 ≠ key) = true := by
    intro e he
    rw [h, List.map_append, List.map_cons, List.nodup_append] at hnodup
    exact decide_eq_true (hnodup.2.2 e.1 (List.mem_map_of_mem he) key List.mem_cons_self)
  rw [h, List.takeWhile_append_of_pos hbefore, List.dropWhile_append_of_pos hbefore]
  simp

theorem FirstFault.congr [PatternEngine] (h : f.FirstFault key cause) (hsame : f.SameUpTo key f') :
    f'.FirstFault key cause := by
  cases h with
  | type h =>
    rw [← hsame.type] at h
    exact .type h
  | gate htype hm h =>
    rw [← hsame.type] at htype
    rw [← hsame.gate] at h
    exact .gate htype hm h
  | @rule t m _ arguments before after _ htype hm hgate hrules hbefore h =>
    obtain ⟨-, hne, hne'⟩ := mem_stepRules.1 (hrules ▸ List.mem_append_right before List.mem_cons_self)
    obtain ⟨before', arguments', after', later, hrules', hshared⟩ := hsame.rules hne hne'
    obtain ⟨htake, hdrop⟩ := takeWhile_stepRules hrules
    obtain ⟨htake', hdrop'⟩ := takeWhile_stepRules hrules'
    rw [htake] at htake'
    rw [hdrop] at hdrop'
    cases htake'
    cases hdrop'
    rw [← hsame.type] at htype
    rw [← hsame.gate] at hgate
    exact .rule htype hm hgate hshared hbefore h

theorem compileAs_eq_error_iff [PatternEngine] {name : String} {e : ConfigError} :
    f.compileAs name = .error e ↔ e.field = name ∧ ∃ key, f.FirstFault key e.cause := by
  rw [← compile_eq_error_iff]
  unfold compileAs
  cases f.compile with
  | ok p => simp
  | error cause =>
    obtain ⟨field, cause'⟩ := e
    simp [eq_comm]

/-- A declaration without a pipeline is reported under the name of its field for its first fault. The mistake names
the part that it is found in; a count of arguments is that of the list in the declaration, and none that is
expected; and nothing behind the part with the first fault changes what is reported. -/
theorem compile_firstFault [PatternEngine] (name : String) (f : FieldSpec) :
    (∀ e : ConfigError, f.compileAs name = .error e ↔ e.field = name ∧ ∃ key, f.FirstFault key e.cause) ∧
    ((∀ p, f.compileAs name ≠ .ok p) → ∃ key cause, f.FirstFault key cause) ∧
    ∀ key cause, f.FirstFault key cause →
      cause.key = key ∧
      (∀ key' t expected found, cause = .argumentCount key' t expected found →
        ∃ arguments, f.get? key = some arguments ∧ found = arguments.length ∧ found ∉ namedNumbers expected) ∧
      ∀ f' : FieldSpec, f.SameUpTo key f' → f'.compileAs name = .error ⟨name, cause⟩ := by
  refine ⟨fun e => compileAs_eq_error_iff, fun h => ?_, fun key cause h => ⟨h.key_eq, ?_, fun f' hsame => ?_⟩⟩
  · cases hcompile : f.compileAs name with
    | ok p => exact absurd hcompile (h p)
    | error e =>
      obtain ⟨-, key, hfault⟩ := compileAs_eq_error_iff.1 hcompile
      exact ⟨key, e.cause, hfault⟩
  · rintro key' t expected found rfl
    exact h.count_not_mem
  · exact compileAs_eq_error_iff.2 ⟨rfl, key, h.congr hsame⟩

/-- Two faults behind each other: a flag too many, and a length that is no number. -/
def sampleFaults : FieldSpec :=
  Entries.ofList [("min", [.ofNat 1, .bool true, .bool false, .text "too short"]),
    (typeKey, [.text "string", .text "no text"]), ("max", [.text "3", .text "too long"])]

/-- The first of them is reported, and further rules behind it change nothing. -/
theorem compile_firstFault_sampleFaults :
    sampleFaults.FirstFault "min" (.argumentCount "min" .string "2 or 3" 4) ∧ 4 ∉ namedNumbers "2 or 3" ∧
    sampleFaults.SameUpTo "min" (sampleFaults.insert optionalKey []) ∧
    compileAs "name" (sampleFaults.insert optionalKey []) =
      .error ⟨"name", .argumentCount "min" .string "2 or 3" 4⟩ := by
  obtain ⟨herror, -, hfirst⟩ := compile_firstFault "name" sampleFaults
  obtain ⟨-, key, hfault⟩ := (herror ⟨"name", .argumentCount "min" .string "2 or 3" 4⟩).1 rfl
  obtain ⟨rfl, hcount, hlater⟩ := hfirst key _ hfault
  have hsame : sampleFaults.SameUpTo "min" (sampleFaults.insert optionalKey []) :=
    ⟨rfl, rfl, fun _ _ => ⟨[], _, _, _, rfl, rfl⟩⟩
  obtain ⟨arguments, -, -, hnot⟩ := hcount _ _ _ _ rfl
  exact ⟨hfault, hnot, hsame, hlater _ hsame⟩

end FieldSpec

end FieldRules
