/-
The fields of a schema have nothing to do with each other. Each field is compiled from its own declaration and
answers on the value under its own name, so neither the order of the fields, nor the fields beside it, nor the rest
of the record can change its error; they only decide where the error stands. The main statement is
`fields_independent`.
-/
import FieldRules.Pattern.Meaning
import FieldRules.Proofs.Compile.Field
import FieldRules.Proofs.Entries.Insertion
import FieldRules.Validation
import Mathlib.Data.List.Perm.Basic

namespace FieldRules

/-! ## Two declarations in one -/

/-- Entries under other keys are put behind those that are there. -/
theorem Entries.toList_insertAll {α : Type} {a b : Entries α} (h : a.keys.Disjoint b.keys) :
    (a.insertAll b.toList).toList = a.toList ++ b.toList := by
  -- the second entries are put after the first ones, which were put into an empty declaration themselves
  have hall : ofList (a.toList ++ b.toList) = a.insertAll b.toList := by
    show empty.insertAll (a.toList ++ b.toList) = _
    rw [insertAll_append]
    exact congrArg (insertAll · b.toList) (ofList_toList a)
  rw [← hall]
  apply toList_ofList
  rw [List.map_append]
  exact a.nodup.append b.nodup h

/-! ## Compiled fields -/

namespace SchemaSpec

variable [PatternEngine] {s s' a b : SchemaSpec} {schema schema' : Schema}

theorem map_fst_of_forall₂ {fields : List (String × FieldSpec)}
    (h : List.Forall₂ (fun e q => q.1 = e.1 ∧ FieldSpec.compile e.2 = .ok q.2) fields schema) :
    schema.map Prod.fst = fields.map Prod.fst := by
  induction h with
  | nil => rfl
  | cons hentry _ ih => rw [List.map_cons, List.map_cons, hentry.1, ih]

theorem fieldNames_of_compile (h : s.compile = .ok schema) : schema.fieldNames = s.keys :=
  map_fst_of_forall₂ (compile_eq_ok_iff.1 h)

/-- Another order of the fields is another order of the pipelines. -/
theorem compile_of_perm (h : s.toList.Perm s'.toList) (hs : s.compile = .ok schema) :
    ∃ schema', s'.compile = .ok schema' ∧ schema.Perm schema' := by
  obtain ⟨schema', hs', hperm⟩ := List.perm_comp_forall₂ h.symm (compile_eq_ok_iff.1 hs)
  exact ⟨schema', compile_eq_ok_iff.2 hs', hperm.symm⟩

theorem perm_of_compile (h : s.toList.Perm s'.toList) (hs : s.compile = .ok schema)
    (hs' : s'.compile = .ok schema') : schema.Perm schema' := by
  obtain ⟨_, hcompile, hperm⟩ := compile_of_perm h hs
  obtain rfl := Except.ok.inj (hcompile.symm.trans hs')
  exact hperm

theorem exists_compile_of_perm (h : s.toList.Perm s'.toList) (hs : ∃ schema, s.compile = .ok schema) :
    ∃ schema', s'.compile = .ok schema' := by
  obtain ⟨schema, hs⟩ := hs
  obtain ⟨schema', hs', -⟩ := compile_of_perm h hs
  exact ⟨schema', hs'⟩

/-- A schema of two parts compiles to the pipelines of the one and then those of the other. -/
theorem compile_insertAll (h : a.keys.Disjoint b.keys) :
    compile (a.insertAll b.toList) = .ok schema ↔
      ∃ x y, a.compile = .ok x ∧ b.compile = .ok y ∧ schema = x ++ y := by
  unfold compile
  rw [Entries.toList_insertAll h, List.mapM_append, bind_eq_ok_iff]
  constructor
  · rintro ⟨x, hx, hrest⟩
    obtain ⟨y, hy, hxy⟩ := bind_eq_ok_iff.1 hrest
    exact ⟨x, y, hx, hy, (Except.ok.inj hxy).symm⟩
  · rintro ⟨x, y, hx, hy, rfl⟩
    exact ⟨x, hx, bind_eq_ok_iff.2 ⟨y, hy, rfl⟩⟩

theorem exists_compile_insertAll (h : a.keys.Disjoint b.keys) :
    (∃ schema, compile (a.insertAll b.toList) = .ok schema) ↔ (∃ x, a.compile = .ok x) ∧ ∃ y, b.compile = .ok y := by
  constructor
  · rintro ⟨schema, hschema⟩
    obtain ⟨x, y, hx, hy, -⟩ := (compile_insertAll h).1 hschema
    exact ⟨⟨x, hx⟩, y, hy⟩
  · rintro ⟨⟨x, hx⟩, y, hy⟩
    exact ⟨x ++ y, (compile_insertAll h).2 ⟨x, y, hx, hy, rfl⟩⟩

end SchemaSpec

/-! ## Errors of single fields -/

namespace Schema

variable {schema schema' : Schema} {r r' : Json} {name : String} {p : Pipeline}

/-- The error of a field is on that field. -/
theorem field_of_fieldError {e : FieldError} (h : fieldError r name p = some e) : e.field = name := by
  unfold fieldError at h
  obtain ⟨m, -, rfl⟩ := Option.map_eq_some_iff.1 h
  rfl

/-- A field looks at nothing in a record but the value under its name. -/
theorem fieldError_congr (h : r.get? name = r'.get? name) (p : Pipeline) :
    fieldError r name p = fieldError r' name p := by
  unfold fieldError
  rw [h]

theorem filter_fieldError_eq_none {S : String → Bool} (h : S name = false) (r : Json) (p : Pipeline) :
    (fieldError r name p).filter (fun e => S e.field) = none := by
  cases herror : fieldError r name p with
  | none => rfl
  | some e =>
    have hfield : S e.field = false := by rw [field_of_fieldError herror, h]
    simp [Option.filter, hfield]

/-! ## Errors of a record -/

/-- The errors stand in the order of the fields, one for a field at most. -/
theorem map_field_validate_sublist (schema : Schema) (r : Json) :
    ((schema.validate r).map FieldError.field).Sublist schema.fieldNames := by
  unfold validate fieldNames
  induction schema with
  | nil => exact List.Sublist.slnil
  | cons q schema ih =>
    rw [List.filterMap_cons, List.map_cons]
    cases herror : fieldError r q.1 q.2 with
    | none => exact ih.cons q.1
    | some e =>
      rw [← field_of_fieldError herror]
      exact ih.cons_cons e.field

/-- The errors of a compiled schema stand in the order of the declared fields. -/
theorem map_field_validate_sublist_keys [PatternEngine] {s : SchemaSpec} (h : s.compile = .ok schema) (r : Json) :
    ((schema.validate r).map FieldError.field).Sublist s.keys := by
  rw [← SchemaSpec.fieldNames_of_compile h]
  exact map_field_validate_sublist schema r

/-- Fields that are declared in another order have the same pipelines. -/
theorem get?_of_perm [PatternEngine] {s s' : SchemaSpec} (h : s.toList.Perm s'.toList) (hs : s.compile = .ok schema)
    (hs' : s'.compile = .ok schema') (name : String) : schema.get? name = schema'.get? name := by
  refine Entries.lookup_of_perm (SchemaSpec.perm_of_compile h hs hs') ?_ name
  rw [show schema.map Prod.fst = s.keys from SchemaSpec.fieldNames_of_compile hs]
  exact s.nodup

theorem validate_of_perm (h : schema.Perm schema') (r : Json) : (schema.validate r).Perm (schema'.validate r) :=
  h.filterMap _

theorem validate_append (x y : Schema) (r : Json) : validate (x ++ y) r = x.validate r ++ y.validate r :=
  List.filterMap_append

theorem validate_congr (h : ∀ name, r.get? name = r'.get? name) : schema.validate r = schema.validate r' :=
  List.filterMap_congr fun q _ => fieldError_congr (h q.1) q.2

/-- Records that agree on some fields have the same errors on these fields. -/
theorem filter_validate_congr {S : String → Bool}
    (h : ∀ name ∈ schema.fieldNames, S name = true → r.get? name = r'.get? name) :
    (schema.validate r).filter (fun e => S e.field) = (schema.validate r').filter fun e => S e.field := by
  unfold validate
  rw [List.filter_filterMap, List.filter_filterMap]
  refine List.filterMap_congr fun q hq => ?_
  cases hS : S q.1 with
  | true => rw [fieldError_congr (h q.1 (List.mem_map_of_mem hq) hS)]
  | false => rw [filter_fieldError_eq_none hS, filter_fieldError_eq_none hS]

end Schema

theorem Json.get?_of_isObject_eq_false {r : Json} (h : r.isObject = false) (name : String) : r.get? name = none := by
  cases r with
  | object members => cases h
  | _ => rfl

/-- Fields in another order compile as well or as badly, to the same pipelines, and a record has the same errors in
the order that the fields have then. Two schemas without a common name compile together when both do, and their
errors are those of the one and then those of the other. On any fields under which two records hold the same, or
both hold nothing, they have the same errors in the same order; a record that is no object has the errors of an
empty one. -/
theorem Schema.fields_independent [PatternEngine] :
    (∀ s s' : SchemaSpec, s.toList.Perm s'.toList →
      ((∃ schema, s.compile = .ok schema) ↔ ∃ schema', s'.compile = .ok schema') ∧
      ∀ schema schema', s.compile = .ok schema → s'.compile = .ok schema' →
        (∀ name, schema.get? name = schema'.get? name) ∧
        ∀ r : Json, (schema.validate r).Perm (schema'.validate r) ∧
          ((schema.validate r).map FieldError.field).Sublist s.keys ∧
          ((schema'.validate r).map FieldError.field).Sublist s'.keys) ∧
    (∀ a b : SchemaSpec, a.keys.Disjoint b.keys →
      (a.insertAll b.toList).toList = a.toList ++ b.toList ∧
      ((∃ schema, SchemaSpec.compile (a.insertAll b.toList) = .ok schema) ↔
        (∃ x, a.compile = .ok x) ∧ ∃ y, b.compile = .ok y) ∧
      ∀ x y, a.compile = .ok x → b.compile = .ok y →
        SchemaSpec.compile (a.insertAll b.toList) = .ok (x ++ y) ∧
        ∀ r : Json, Schema.validate (x ++ y) r = x.validate r ++ y.validate r) ∧
    (∀ (schema : Schema) (S : String → Bool) (r r' : Json),
      (∀ name ∈ schema.fieldNames, S name = true → r.get? name = r'.get? name) →
      (schema.validate r).filter (fun e => S e.field) = (schema.validate r').filter fun e => S e.field) ∧
    ∀ (schema : Schema) (r : Json), r.isObject = false → schema.validate r = schema.validate (.object []) := by
  refine ⟨fun s s' h => ⟨⟨SchemaSpec.exists_compile_of_perm h, SchemaSpec.exists_compile_of_perm h.symm⟩, ?_⟩,
    fun a b h => ⟨Entries.toList_insertAll h, SchemaSpec.exists_compile_insertAll h, fun x y hx hy => ?_⟩,
    fun schema S r r' => filter_validate_congr, fun schema r hr => ?_⟩
  · intro schema schema' hs hs'
    refine ⟨get?_of_perm h hs hs', fun r => ⟨?_, ?_, ?_⟩⟩
    · exact validate_of_perm (SchemaSpec.perm_of_compile h hs hs') r
    · exact map_field_validate_sublist_keys hs r
    · exact map_field_validate_sublist_keys hs' r
  · exact ⟨(SchemaSpec.compile_insertAll h).2 ⟨x, y, hx, hy, rfl⟩, validate_append x y⟩
  · -- neither of the two records holds anything under any name
    apply validate_congr
    intro name
    rw [Json.get?_of_isObject_eq_false hr]
    rfl

/-- A mandatory name and an optional age. -/
def sampleFields : List (String × FieldSpec) :=
  [("name", Entries.ofList [(typeKey, [.text "string", .text "no text"]), (requiredKey, [.text "missing"])]),
   ("age", Entries.ofList [(typeKey, [.text "number", .text "no number"])])]

theorem Schema.fields_independent_sampleFields :
    let s : SchemaSpec := Entries.ofList sampleFields
    let s' : SchemaSpec := Entries.ofList sampleFields.reverse
    let a : SchemaSpec := Entries.ofList [sampleFields[0]]
    let b : SchemaSpec := Entries.ofList [sampleFields[1]]
    let r : Json := .object [("age", .bool true)]
    let r' : Json := .object [("name", .text "ann"), ("age", .bool true)]
    s.toList.Perm s'.toList ∧ a.keys.Disjoint b.keys ∧
    ∃ schema schema' x y : Schema, s.compile = .ok schema ∧ s'.compile = .ok schema' ∧ a.compile = .ok x ∧
      b.compile = .ok y ∧ SchemaSpec.compile (a.insertAll b.toList) = .ok (x ++ y) ∧
      schema.validate r = [⟨"name", "missing"⟩, ⟨"age", "no number"⟩] ∧
      schema'.validate r = [⟨"age", "no number"⟩, ⟨"name", "missing"⟩] ∧
      (schema.validate r).Perm (schema'.validate r) ∧ schema.get? "age" = schema'.get? "age" ∧
      (schema.validate r').filter (fun e => e.field == "age") = [⟨"age", "no number"⟩] ∧
      schema.validate (.list []) = schema.validate (.object []) := by
  intro s s' a b r r'
  have hperm : s.toList.Perm s'.toList := (List.reverse_perm sampleFields).symm
  have hdisjoint : a.keys.Disjoint b.keys := by
    rw [List.disjoint_left]
    decide
  obtain ⟨horder, hparts, hlocal, hempty⟩ := fields_independent
  obtain ⟨hget, herrors⟩ := (horder s s' hperm).2 _ _ rfl rfl
  have hboth := ((hparts a b hdisjoint).2.2 _ _ rfl rfl).1
  have hage : ∀ schema : Schema, (schema.validate r').filter (fun e => e.field == "age") =
      (schema.validate r).filter fun e => e.field == "age" := by
    intro schema
    refine hlocal schema (fun name => name == "age") r' r fun name _ hname => ?_
    obtain rfl := beq_iff_eq.1 hname
    rfl
  exact ⟨hperm, hdisjoint, _, _, _, _, rfl, rfl, rfl, rfl, hboth, rfl, rfl, (herrors r).1, hget "age",
    (hage _).trans rfl, hempty _ (.list []) rfl⟩

end FieldRules
