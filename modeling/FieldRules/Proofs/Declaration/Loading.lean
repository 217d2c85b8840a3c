/-
Loading a declaration. A schema is read from a text or from a value, and a text is also read by parsing it
first. Both readings ask for the same form (`ofText_eq_ok_iff`, `ofJson_eq_ok_iff`) and collect the same
insertions, the members in the order of the text, so the two ways agree: `ofText_agrees` for declarations and
for the schemas that they compile to.

The way through a value forgets what a repeated key stood for first. A text may therefore be refused for a
member that its value no longer has; this is the only difference, and none is left where no key is repeated.
-/
import FieldRules.Command.Document
import FieldRules.Pattern.Meaning
import FieldRules.Proofs.Json.Form

namespace FieldRules

/-! ## Forms and insertions -/

namespace FieldSpec

/-- An object with a list under each key. -/
def HasForm : Json → Prop :=
  Json.TableOf (Json.ListOf fun _ => True)

/-- The insertions that the members of an object stand for, with the arguments taken by `f`. -/
def insertions (f : Json → Json) : Json → List (String × List Json)
  | .object members => members.map fun e => (e.1, (e.2.list?.getD []).map f)
  | _ => []

theorem asks_shape : shape.Asks HasForm :=
  Json.Shape.asks_any.list.table

theorem ofShaped_eq (v : Json) : ofShaped v = Entries.ofList (insertions id v) := by
  cases v with
  | object members => simp only [ofShaped, insertions, List.map_id]
  | _ => rfl

theorem list?_merged (v : Json) : v.merged.list?.getD [] = (v.list?.getD []).map Json.merged := by
  cases v with
  | list items => rw [Json.merged_list]; rfl
  | object members => rw [Json.merged_object]; rfl
  | _ => rfl

/-- What is merged collects to the same as what is written. -/
theorem ofShaped_merged (t : Json) : ofShaped t.merged = Entries.ofList (insertions Json.merged t) := by
  cases t with
  | object members =>
    rw [Json.merged_object]
    refine (Entries.ofList_map_toList_ofList (fun v : Json => v.list?.getD []) _).trans ?_
    simp only [insertions, List.map_map, Function.comp_def, list?_merged]
  | _ => rfl

theorem ofJson_eq_ok_iff {v : Json} {f : FieldSpec} : ofJson v = .ok f ↔ HasForm v ∧ ofShaped v = f :=
  asks_shape.map_conform_eq_ok_iff

theorem ofText_eq_ok_iff {s : String} {f : FieldSpec} :
    ofText s = .ok f ↔ ∃ t, Json.spelled s = .ok t ∧ HasForm t ∧ ofShaped t.merged = f :=
  asks_shape.map_parse_eq_ok_iff

theorem HasForm.merged {t : Json} (h : HasForm t) : HasForm t.merged :=
  Json.TableOf.merged (fun _ hv => Json.ListOf.merged (fun _ _ => trivial) hv) h

end FieldSpec

namespace SchemaSpec

/-- An object with the form of a field under each name. -/
def HasForm : Json → Prop :=
  Json.TableOf FieldSpec.HasForm

/-- The insertions that the members of an object stand for, with the arguments of the rules taken by `f`. -/
def insertions (f : Json → Json) : Json → List (String × FieldSpec)
  | .object members => members.map fun e => (e.1, Entries.ofList (FieldSpec.insertions f e.2))
  | _ => []

theorem asks_shape : shape.Asks HasForm :=
  FieldSpec.asks_shape.table

theorem ofShaped_eq (v : Json) : ofShaped v = Entries.ofList (insertions id v) := by
  cases v with
  | object members => simp only [ofShaped, insertions, FieldSpec.ofShaped_eq]
  | _ => rfl

theorem ofShaped_merged (t : Json) : ofShaped t.merged = Entries.ofList (insertions Json.merged t) := by
  cases t with
  | object members =>
    rw [Json.merged_object]
    refine (Entries.ofList_map_toList_ofList FieldSpec.ofShaped _).trans ?_
    simp only [insertions, List.map_map, Function.comp_def, FieldSpec.ofShaped_merged]
  | _ => rfl

theorem ofJson_eq_ok_iff {v : Json} {c : SchemaSpec} : ofJson v = .ok c ↔ HasForm v ∧ ofShaped v = c :=
  asks_shape.map_conform_eq_ok_iff

theorem ofText_eq_ok_iff {s : String} {c : SchemaSpec} :
    ofText s = .ok c ↔ ∃ t, Json.spelled s = .ok t ∧ HasForm t ∧ ofShaped t.merged = c :=
  asks_shape.map_parse_eq_ok_iff

theorem HasForm.merged {t : Json} (h : HasForm t) : HasForm t.merged :=
  Json.TableOf.merged (fun _ hv => FieldSpec.HasForm.merged hv) h

end SchemaSpec

/-! ## Compiled schemas -/

theorem mapError_eq_ok_iff {ε ε' α : Type} {x : Except ε α} {f : ε → ε'} {a : α} :
    x.mapError f = .ok a ↔ x = .ok a := by
  cases x with
  | error e =>
    constructor
    · intro h
      cases h
    · intro h
      cases h
  | ok b => exact ⟨fun h => congrArg Except.ok (Except.ok.inj h), fun h => congrArg Except.ok (Except.ok.inj h)⟩

namespace Schema

variable [PatternEngine] {schema : Schema}

theorem ofJson_eq_ok_iff {v : Json} :
    ofJson v = .ok schema ↔ ∃ c, SchemaSpec.ofJson v = .ok c ∧ c.compile = .ok schema := by
  unfold ofJson ofSpec
  rw [bind_eq_ok_iff]
  simp only [mapError_eq_ok_iff]

theorem ofText_eq_ok_iff {s : String} :
    ofText s = .ok schema ↔ ∃ c, SchemaSpec.ofText s = .ok c ∧ c.compile = .ok schema := by
  unfold ofText ofSpec
  rw [bind_eq_ok_iff]
  simp only [mapError_eq_ok_iff]

end Schema

/-- A schema file that is not YAML is parsed, and the value is converted. -/
theorem readSchema_eq_ok_iff [PatternEngine] {files : Files} {path s : String} (htext : files path = .text s)
    (hjson : isYamlPath path = false) {schema : Schema} :
    readSchema files path = .ok schema ↔ ∃ v, Json.parse s = .ok v ∧ Schema.ofJson v = .ok schema := by
  have hdocument : ∀ v, readDocument files path = .ok v ↔ Json.parse s = .ok v := by
    intro v
    unfold readDocument
    simp only [htext, hjson, Bool.false_eq_true, if_false]
    cases Json.parse s with
    | error e =>
      constructor
      · intro h
        cases h
      · intro h
        cases h
    | ok w => simp only [Except.ok.injEq]
  unfold readSchema
  rw [bind_eq_ok_iff]
  simp only [hdocument, mapError_eq_ok_iff]

/-! ## The two ways -/

/-- No object that the text spells has two members under one key. -/
def Json.RepeatsNoKey (s : String) : Prop :=
  ∃ t, Json.spelled s = .ok t ∧ t.Distinct

namespace SchemaSpec

/-- The schema holds what an object spells: names and keys where they are written first, with what is written
under them last. -/
structure WrittenIn (t : Json) (c : SchemaSpec) : Prop where
  fields : c.Records (insertions Json.merged t)
  rules : ∀ name f, c.get? name = some f → ∃ before content after,
    t = .object (before ++ (name, content) :: after) ∧ name ∉ after.map Prod.fst ∧
      f.Records (FieldSpec.insertions Json.merged content)

theorem writtenIn_ofShaped (t : Json) : (ofShaped t.merged).WrittenIn t where
  fields := by
    rw [ofShaped_merged]
    exact Entries.records_ofList _
  rules name f hf := by
    rw [ofShaped_merged, (Entries.records_ofList _).get?_eq_some_iff] at hf
    obtain ⟨before, after, hlog, hafter⟩ := hf
    cases t with
    | object members =>
      obtain ⟨before', tail, rfl, -, htail⟩ := List.map_eq_append_iff.1 hlog
      obtain ⟨⟨name', content⟩, after', rfl, he, rfl⟩ := List.map_eq_cons_iff.1 htail
      cases he
      refine ⟨before', content, after', rfl, ?_, Entries.records_ofList _⟩
      rwa [List.map_map] at hafter
    | _ => cases before <;> cases hlog

theorem ofJson_of_ofText {s : String} {c : SchemaSpec} (h : ofText s = .ok c) :
    ∃ v, Json.parse s = .ok v ∧ ofJson v = .ok c := by
  obtain ⟨t, ht, hform, rfl⟩ := ofText_eq_ok_iff.1 h
  exact ⟨t.merged, Json.parse_eq_ok_iff.2 ⟨t, ht, rfl⟩, ofJson_eq_ok_iff.2 ⟨hform.merged, rfl⟩⟩

theorem ofText_of_ofJson {s : String} (hkeys : Json.RepeatsNoKey s) {v : Json} (hv : Json.parse s = .ok v)
    {c : SchemaSpec} (h : ofJson v = .ok c) : ofText s = .ok c := by
  obtain ⟨t, ht, hdistinct⟩ := hkeys
  obtain ⟨t', ht', rfl⟩ := Json.parse_eq_ok_iff.1 hv
  cases ht.symm.trans ht'
  obtain ⟨hform, rfl⟩ := ofJson_eq_ok_iff.1 h
  rw [Json.merged_eq_self hdistinct] at hform
  exact ofText_eq_ok_iff.2 ⟨t, ht, hform, rfl⟩

/-- A text that is read as a schema parses to a value that converts to the same schema, which has its names and
keys where the text has them first, with what it has under them last; it is also the schema that a file of the
text compiles to. Conversely, where the text repeats no key, whatever its value converts and compiles to is
read from the text. -/
theorem ofText_agrees [PatternEngine] (s : String) :
    (∀ c, ofText s = .ok c → ∃ t v, Json.spelled s = .ok t ∧ c.WrittenIn t ∧
      Json.parse s = .ok v ∧ ofJson v = .ok c) ∧
    (Json.RepeatsNoKey s → ∀ v c, Json.parse s = .ok v → ofJson v = .ok c → ofText s = .ok c) ∧
    ∀ files path, files path = .text s → isYamlPath path = false →
      (∀ schema, Schema.ofText s = .ok schema → readSchema files path = .ok schema) ∧
      (Json.RepeatsNoKey s → ∀ schema, readSchema files path = .ok schema → Schema.ofText s = .ok schema) := by
  refine ⟨fun c h => ?_, fun hkeys v c hv h => ofText_of_ofJson hkeys hv h, fun files path htext hjson => ?_⟩
  · obtain ⟨t, ht, hform, rfl⟩ := ofText_eq_ok_iff.1 h
    exact ⟨t, t.merged, ht, writtenIn_ofShaped t, Json.parse_eq_ok_iff.2 ⟨t, ht, rfl⟩,
      ofJson_eq_ok_iff.2 ⟨hform.merged, rfl⟩⟩
  · constructor
    · intro schema h
      obtain ⟨c, hc, hcompile⟩ := Schema.ofText_eq_ok_iff.1 h
      obtain ⟨v, hv, hjson'⟩ := ofJson_of_ofText hc
      exact (readSchema_eq_ok_iff htext hjson).2 ⟨v, hv, Schema.ofJson_eq_ok_iff.2 ⟨c, hjson', hcompile⟩⟩
    · intro hkeys schema h
      obtain ⟨v, hv, hschema⟩ := (readSchema_eq_ok_iff htext hjson).1 h
      obtain ⟨c, hc, hcompile⟩ := Schema.ofJson_eq_ok_iff.1 hschema
      exact Schema.ofText_eq_ok_iff.2 ⟨c, ofText_of_ofJson hkeys hv hc, hcompile⟩

/-- A text that has each key once, and one that has a name twice, with the first content of it dropped. -/
theorem ofText_agrees_declarations :
    ofText "\x7b\"b\":\x7b\"type\":[]\x7d,\"a\":\x7b\x7d\x7d" =
        .ok (Entries.ofList [("b", Entries.ofList [("type", [])]), ("a", Entries.empty)]) ∧
      ∃ t v, Json.spelled "\x7b\"b\":\x7b\"type\":[]\x7d,\"a\":\x7b\x7d,\"b\":\x7b\x7d\x7d" = .ok t ∧
        WrittenIn t (Entries.ofList [("b", Entries.empty), ("a", Entries.empty)]) ∧
        Json.parse "\x7b\"b\":\x7b\"type\":[]\x7d,\"a\":\x7b\x7d,\"b\":\x7b\x7d\x7d" = .ok v ∧
        ofJson v = .ok (Entries.ofList [("b", Entries.empty), ("a", Entries.empty)]) := by
  have hempty : (Json.object []).Distinct := Json.distinct_object_iff.2 ⟨List.nodup_nil, List.forall_mem_nil _⟩
  have htype : (Json.object [("type", .list [])]).Distinct := Json.distinct_object_iff.2
    ⟨List.nodup_singleton _, List.forall_mem_singleton.2 (Json.distinct_list_iff.2 (List.forall_mem_nil _))⟩
  have hkeys : Json.RepeatsNoKey "\x7b\"b\":\x7b\"type\":[]\x7d,\"a\":\x7b\x7d\x7d" :=
    ⟨.object [("b", .object [("type", .list [])]), ("a", .object [])], rfl, Json.distinct_object_iff.2
      ⟨by decide, List.forall_mem_cons.2 ⟨htype, List.forall_mem_singleton.2 hempty⟩⟩⟩
  exact ⟨(ofText_agrees _).2.1 hkeys _ _ rfl rfl, (ofText_agrees _).1 _ rfl⟩

/-- What a repeated name stood for first is not a field, which the way through the value does not see. -/
example : (ofText "\x7b\"a\":1,\"a\":\x7b\x7d\x7d").toOption = none ∧
    (do ofJson (← (Json.parse "\x7b\"a\":1,\"a\":\x7b\x7d\x7d").toOption) |>.toOption) =
      some (Entries.ofList [("a", Entries.empty)]) :=
  ⟨rfl, rfl⟩

end SchemaSpec

end FieldRules
