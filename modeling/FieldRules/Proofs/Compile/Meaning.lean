/-
What a declaration means, said of the declaration itself. `SchemaSpec.answers` goes through the fields of a
schema and through the rules of each field as they are declared, and reads the JSON arguments of a rule at
the moment when the rule is tried; nothing is compiled. The main statement is `validate_eq_answers`: a
compiled schema gives the same errors on every record.

The proof goes down the levels: `Reads.passes_eq` for the arguments of one rule, `findSome?_run` for the
steps of a field, `run_eq_answer` for its pipeline.
-/
import FieldRules.Pattern.Meaning
import FieldRules.Proofs.Compile.Field
import FieldRules.Validation

namespace FieldRules

/-! ## Rules -/

/-- The size that an argument stands for; one beyond 64 bits counts as the greatest. -/
def sizeIn : Json → Nat
  | .number (.natural n) => n
  | .number (.real x) => min x.wholePart (twoPow 64 - 1)
  | _ => 0

/-- Whether the arguments behind a size ask for trimming. -/
def trims (flag : List Json) : Bool :=
  flag.any fun w => w.bool?.getD false

/-- Whether a value satisfies the constraint with the arguments before the message. -/
def Constraint.holds [PatternEngine] (v : Json) : Constraint → List Json → Bool
  | .minLength, n :: flag => v.text?.any fun s => sizeIn n ≤ textLength s (trims flag)
  | .maxLength, n :: flag => v.text?.any fun s => textLength s (trims flag) ≤ sizeIn n
  | .pattern, [.text source] =>
    v.text?.any fun s =>
      match PatternEngine.compile source with
      | .ok search => search s
      | .error _ => false
  | .enum, [.list allowed] => v.text?.any fun s => allowed.any fun w => w.text? = some s
  | .email, _ => v.text?.any Email.isAddress
  | .integer, _ => v.isIntegral
  | .lowerOrEqual, [.number b] => v.compares .atMost b.toBinary64
  | .greaterOrEqual, [.number b] => v.compares .atLeast b.toBinary64
  | .equal, [.number b] => v.compares .equal b.toBinary64
  | .greaterThan, [.number b] => v.compares .above b.toBinary64
  | .lowerThan, [.number b] => v.compares .below b.toBinary64
  | .between, [.number l, .number u] => v.isBetween l.toBinary64 u.toBinary64
  | .elementType, [.text name] =>
    v.list?.any fun items => items.all fun w => (ElementType.ofName? name).any fun t => t.admits w
  | .minSize, [n] => v.list?.any fun items => sizeIn n ≤ items.length
  | .maxSize, [n] => v.list?.any fun items => items.length ≤ sizeIn n
  | .size, [n] => v.list?.any fun items => items.length == sizeIn n
  | _, _ => false

/-- The message of a rule: the last of its arguments. -/
def messageIn (arguments : List Json) : String :=
  (arguments.getLast?.bind Json.text?).getD ""

/-- Whether a rule of a field of the type finds fault with a value. -/
def FieldType.refuses [PatternEngine] (t : FieldType) (v : Json) (e : String × List Json) : Bool :=
  !(t.constraint? e.1).any fun c => c.holds v e.2.dropLast

/-! ## Fields and schemas -/

/-- Nothing, null, or a text that trimming leaves empty. -/
def Candidate.isMissing : Candidate → Bool
  | none => true
  | some .null => true
  | some (.text s) => (Text.trim s.toList).isEmpty
  | some _ => false

namespace FieldSpec

def declaredType? (f : FieldSpec) : Option FieldType :=
  ((f.get? typeKey).bind List.head?).bind fun v => v.text?.bind FieldType.ofName?

variable [PatternEngine]

/-- The message on a value that the gate lets through. -/
def judge (f : FieldSpec) (v : Json) : Option String :=
  f.declaredType?.bind fun t =>
    if t.admits v then
      (f.toList.find? fun e => e.1 ≠ typeKey && e.1 ≠ requiredKey && t.refuses v e).map fun e => messageIn e.2
    else (f.get? typeKey).map messageIn

/-- The message on a candidate. -/
def answer (f : FieldSpec) (candidate : Candidate) : Option String :=
  match f.get? requiredKey with
  | none => if candidate.isAbsent then none else candidate.bind f.judge
  | some arguments => if candidate.isMissing then some (messageIn arguments) else candidate.bind f.judge

end FieldSpec

/-- The errors of a record, field by field in the order of the declaration. -/
def SchemaSpec.answers [PatternEngine] (s : SchemaSpec) (record : Json) : List FieldError :=
  s.toList.filterMap fun (name, f) =>
    let candidate := record.get? name
    (FieldSpec.answer f candidate).map fun m => ⟨name, Template.render m name candidate⟩

/-! ## One rule -/

theorem sizeIn_of_sizeOf? {v : Json} {n : Nat} (h : sizeOf? v = some n) : sizeIn v = n := by
  unfold sizeOf? at h
  split at h
  · exact Option.some.inj h
  · split at h
    · exact Option.some.inj h
    · cases h
  · cases h

/-- The check that arguments make passes the values that satisfy the constraint with these arguments. -/
theorem Constraint.Reads.passes_eq [PatternEngine] {c : Constraint} {arguments : List Json} {k : Check}
    (h : c.Reads arguments k) (v : Json) : k.passes v = c.holds v arguments := by
  cases h with
  | length hc hn =>
    cases c <;> cases hc <;> cases v <;>
      simp [Check.passes, TextCheck.passes, holds, Json.text?, sizeIn_of_sizeOf? hn, trims]
  | lengthFlag hc hn =>
    cases c <;> cases hc <;> cases v <;>
      simp [Check.passes, TextCheck.passes, holds, Json.text?, sizeIn_of_sizeOf? hn, trims, Json.bool?]
  | pattern hp => cases v <;> simp [Check.passes, TextCheck.passes, holds, Json.text?, hp]
  | enum =>
    cases v with
    | text s =>
      -- the compiled check holds the texts, the declaration the values that they came from
      simp only [Check.passes, TextCheck.passes, holds, Json.text?, Option.any_some, List.any_map,
        List.contains_eq_any_beq]
      congr 1
      funext w
      rw [Bool.eq_iff_iff, beq_iff_eq]
      simp [eq_comm]
    | _ => rfl
  | email => cases v <;> simp [Check.passes, TextCheck.passes, holds, Json.text?]
  | integer => rfl
  | compare hc => cases c <;> cases hc <;> rfl
  | between hlt => rfl
  | elementType =>
    cases v <;>
      simp [Check.passes, ArrayCheck.passes, holds, Json.list?, ElementType.ofName?_eq_some_iff.2 rfl]
  | size hc hn =>
    cases c <;> cases hc <;> cases v <;>
      simp [Check.passes, ArrayCheck.passes, holds, Json.list?, sizeIn_of_sizeOf? hn]

theorem messageIn_concat (arguments : List Json) (m : String) : messageIn (arguments ++ [.text m]) = m := by
  unfold messageIn
  rw [List.getLast?_concat]
  rfl

namespace FieldSpec

variable [PatternEngine] {f : FieldSpec} {t : FieldType}

/-- A step answers with the message of its rule exactly when the rule finds fault. -/
theorem MakesStep.run_eq {e : String × List Json} {st : Step} (h : MakesStep t e st) (v : Json) :
    st.run v = if t.refuses v e then some (messageIn e.2) else none := by
  cases h with
  | @intro key m c positional k hc hk =>
    have hrefuses : t.refuses v (key, positional ++ [.text m]) = !k.passes v := by
      unfold FieldType.refuses
      rw [hc, List.dropLast_concat, hk.passes_eq]
      rfl
    rw [hrefuses, messageIn_concat]
    unfold Step.run
    cases k.passes v <;> rfl

/-- The steps answer with the message of the first rule that finds fault. -/
theorem findSome?_run {rules : List (String × List Json)} {steps : List Step}
    (h : List.Forall₂ (MakesStep t) rules steps) (v : Json) :
    steps.findSome? (Step.run v) = (rules.find? (t.refuses v)).map fun e => messageIn e.2 := by
  induction h with
  | nil => rfl
  | cons hst _ ih =>
    rw [List.findSome?_cons, List.find?_cons, hst.run_eq v, ih]
    split <;> simp_all

/-! ## Fields -/

omit [PatternEngine] in
theorem isDefined_eq (candidate : Candidate) : candidate.isDefined = !candidate.isMissing := by
  match candidate with
  | none => rfl
  | some .null => rfl
  | some (.text s) =>
    show (!Text.isBlankText s) = !(Text.trim s.toList).isEmpty
    rw [Text.isBlankText, Bool.eq_iff_iff, Bool.not_eq_true', Bool.not_eq_true', List.isEmpty_eq_false_iff,
      ne_eq, Text.trim_eq_nil_iff, Bool.not_eq_true]
  | some (.bool _) | some (.number _) | some (.list _) | some (.object _) => rfl

/-- The steps of a compiled field, the type check first, judge a value as the declaration does. -/
theorem findSome?_run_type {m : String} {steps : List Step}
    (htype : f.get? typeKey = some [.text t.name, .text m])
    (hsteps : List.Forall₂ (MakesStep t) f.stepRules steps) (v : Json) :
    (⟨typeKey, .type t, m⟩ :: steps : List Step).findSome? (Step.run v) = f.judge v := by
  have hdeclared : f.declaredType? = some t := by
    unfold declaredType?
    rw [htype]
    exact FieldType.ofName?_name t
  have hrules : f.stepRules.find? (t.refuses v) =
      f.toList.find? fun e => e.1 ≠ typeKey && e.1 ≠ requiredKey && t.refuses v e := by
    rw [stepRules, List.find?_filter]
    congr 1
    funext e
    simp [Bool.and_assoc]
  have hfirst : Step.run v ⟨typeKey, .type t, m⟩ = if t.admits v then none else some m := rfl
  unfold judge
  rw [List.findSome?_cons, hfirst, findSome?_run hsteps, hrules, hdeclared, htype, Option.bind_some]
  cases hadmits : t.admits v with
  | true => rfl
  | false => rfl

/-- A compiled field answers on every candidate as its declaration does. -/
theorem run_eq_answer {p : Pipeline} (h : f.compile = .ok p) (candidate : Candidate) :
    p.run candidate = f.answer candidate := by
  obtain ⟨t, m, g, steps, ⟨htype, -⟩, hgate, hsteps, rfl⟩ := compile_eq_ok_iff.1 h
  have hjudge := findSome?_run_type htype hsteps
  unfold Pipeline.run answer
  simp only [hjudge]
  rcases gateRule_eq_ok_iff.1 hgate with ⟨hnone, rfl⟩ | ⟨r, hsome, -, rfl⟩
  · rw [hnone, Gate.evaluate]
    cases candidate.isAbsent with
    | true => rfl
    | false => rfl
  · rw [hsome, Gate.evaluate, isDefined_eq]
    cases candidate.isMissing with
    | true => rfl
    | false => rfl

end FieldSpec

/-! ## Schemas -/

theorem filterMap_fieldError [PatternEngine] {fields : List (String × FieldSpec)} {schema : Schema}
    (h : List.Forall₂ (fun e q => q.1 = e.1 ∧ FieldSpec.compile e.2 = .ok q.2) fields schema) (record : Json) :
    (schema.filterMap fun q => Schema.fieldError record q.1 q.2) = fields.filterMap fun (name, f) =>
      (FieldSpec.answer f (record.get? name)).map fun m => ⟨name, Template.render m name (record.get? name)⟩ := by
  induction h with
  | nil => rfl
  | @cons e q fields schema hentry _ ih =>
    obtain ⟨name, f⟩ := e
    obtain ⟨name', p⟩ := q
    obtain ⟨rfl, hp⟩ := hentry
    rw [List.filterMap_cons, List.filterMap_cons, ih, Schema.fieldError, FieldSpec.run_eq_answer hp]

/-- A compiled schema gives on every record the errors that its declaration gives. -/
theorem Schema.validate_eq_answers [PatternEngine] {s : SchemaSpec} {schema : Schema} (h : s.compile = .ok schema)
    (record : Json) : schema.validate record = s.answers record :=
  filterMap_fieldError (SchemaSpec.compile_eq_ok_iff.1 h) record

/-- A schema with a rule of each sort, the type and the gate declared late. -/
def sampleSpec : SchemaSpec :=
  Entries.ofList
    [("sex", Entries.ofList
      [("max", [.ofNat 3, .bool true, .text "{{value}} is too long for {{field}}"]),
       ("type", [.text "string", .text "T1"]),
       ("required", [.text "T2"]),
       ("enum", [.list [.text "male", .text "female"], .text "T3"])]),
     ("age", Entries.ofList
      [("type", [.text "number", .text "N1"]), ("btw", [.ofNat 0, .ofNat 18, .text "{{value}} is out of range"])])]

theorem validate_sampleSpec : ∃ schema, sampleSpec.compile = .ok schema ∧
    schema.validate (.object [("age", .text " 19 "), ("sex", .text "male")]) =
      [⟨"sex", "male is too long for sex"⟩, ⟨"age", " 19  is out of range"⟩] :=
  ⟨_, rfl, (Schema.validate_eq_answers (s := sampleSpec) rfl _).trans (by rfl)⟩

end FieldRules
