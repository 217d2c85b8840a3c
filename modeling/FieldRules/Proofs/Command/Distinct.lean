/-
The documents of a run repeat no key in an object. Whatever is read collects the members under one key into one, be
it JSON (`Json.distinct_of_parse`) or YAML (`Yaml.distinct_of_parse?`). Masking keeps the keys, so the records shown
again repeat none either, and the documents that are written have keys of their own beside those.
-/
import FieldRules.Proofs.Command.Echo
import FieldRules.Proofs.Redaction.Value
import FieldRules.Proofs.Report.Faithful

namespace FieldRules

/-! ## Values that are read -/

namespace Json

theorem distinct_ofPairs {pairs : List (String × Json)} (h : ∀ e ∈ pairs, e.2.Distinct) :
    (ofPairs pairs).Distinct := by
  rw [ofPairs_eq]
  exact distinct_object_iff.2 ⟨(Entries.ofList pairs).nodup, fun e he => h e (Entries.mem_of_mem_ofList he)⟩

theorem distinct_merged (v : Json) : v.merged.Distinct := by
  induction v using parts_induction with
  | null | bool | number | text => exact distinct_of_depth_eq_zero rfl
  | list items ih =>
    rw [merged_list]
    exact distinct_list_iff.2 (List.forall_mem_map.2 ih)
  | object members ih =>
    rw [merged_object, ← ofPairs_eq]
    exact distinct_ofPairs (List.forall_mem_map.2 ih)

theorem distinct_of_parse {s : String} {v : Json} (h : parse s = .ok v) : v.Distinct := by
  obtain ⟨t, -, rfl⟩ := parse_eq_ok_iff.1 h
  exact distinct_merged t

end Json

namespace Yaml

section
variable {α β : Type} {n n' : Nat}

theorem bind_eq_some_iff {x : Expansion α} {f : α → Expansion β} {r : β × Nat} :
    (x >>= f) n = some r ↔ ∃ a k, x n = some (a, k) ∧ f a k = some r := by
  refine Option.bind_eq_some_iff.trans ?_
  simp only [Prod.exists]

theorem forall_of_mapM {P : β → Prop} {f : α → Expansion β} (hf : ∀ a n b n', f a n = some (b, n') → P b)
    {l : List α} {bs : List β} (h : l.mapM f n = some (bs, n')) : ∀ b ∈ bs, P b := by
  induction l generalizing n bs with
  | nil =>
    rw [List.mapM_nil] at h
    cases h
    exact List.forall_mem_nil P
  | cons a l ih =>
    rw [List.mapM_cons] at h
    obtain ⟨b, k, hb, h⟩ := bind_eq_some_iff.1 h
    obtain ⟨bs, k', hbs, h⟩ := bind_eq_some_iff.1 h
    cases h
    exact List.forall_mem_cons.2 ⟨hf a n b k hb, ih hbs⟩

end

section
variable {v : Json} {tag : Option String} {style : Style} {s : String}

theorem Scalar.depth_of_toJson? {x : Scalar} (h : x.toJson? = some v) : v.depth = 0 := by
  cases x with
  | integer n =>
    simp only [toJson?] at h
    split at h
    · cases h; rfl
    · split at h
      · cases h; rfl
      · cases h
  | _ => cases h; rfl

/-- A scalar has a value without parts. -/
theorem depth_of_scalarJson? (h : scalarJson? tag style s = some v) : v.depth = 0 := by
  cases tag with
  | none =>
    rw [scalarJson?] at h
    split at h
    · exact Scalar.depth_of_toJson? h
    · cases h; rfl
  | some t =>
    -- one case for each kind that a tag may ask for
    dsimp only [scalarJson?] at h
    split at h
    · cases h
    split at h
    · obtain ⟨b, -, rfl⟩ := Option.map_eq_some_iff.1 h
      rfl
    split at h
    · obtain ⟨i, -, hi⟩ := Option.bind_eq_some_iff.1 h
      exact Scalar.depth_of_toJson? hi
    split at h
    · obtain ⟨x, -, hx⟩ := Option.bind_eq_some_iff.1 h
      exact Scalar.depth_of_toJson? hx
    split at h
    · split at h
      · cases h; rfl
      · cases h
    · cases h; rfl

theorem distinct_of_scalar {n n' : Nat} (h : (liftM (scalarJson? tag style s) : Expansion Json) n = some (v, n')) :
    v.Distinct := by
  obtain ⟨w, hw, hv⟩ := Option.bind_eq_some_iff.1 h
  cases hv
  exact Json.distinct_of_depth_eq_zero (depth_of_scalarJson? hw)

/-- The value of a node, by induction on the levels that it may nest. -/
theorem Document.distinct_of_valueOf {d : Document} {depth n n' : Nat} {node : Node}
    (h : d.valueOf depth node n = some (v, n')) : v.Distinct := by
  induction depth generalizing node n v n' with
  | zero =>
    rw [valueOf] at h
    obtain ⟨target, k, -, h⟩ := bind_eq_some_iff.1 h
    cases target with
    | scalar => exact distinct_of_scalar h
    | list | object | reference => cases h
  | succ depth ih =>
    rw [valueOf] at h
    obtain ⟨target, k, -, h⟩ := bind_eq_some_iff.1 h
    cases target with
    | scalar => exact distinct_of_scalar h
    | list tag items =>
      dsimp only at h
      split at h
      · cases h
      obtain ⟨vs, k', hvs, h⟩ := bind_eq_some_iff.1 h
      cases h
      exact Json.distinct_list_iff.2 (forall_of_mapM (fun _ _ _ _ => ih) hvs)
    | object tag members =>
      dsimp only at h
      split at h
      · cases h
      obtain ⟨pairs, k', hpairs, h⟩ := bind_eq_some_iff.1 h
      cases h
      refine Json.distinct_ofPairs (forall_of_mapM (fun e n b n' he => ?_) hpairs)
      obtain ⟨key, k, -, he⟩ := bind_eq_some_iff.1 he
      obtain ⟨w, k', hw, he⟩ := bind_eq_some_iff.1 he
      cases he
      exact ih hw
    | reference => cases h

theorem distinct_of_parse? (h : parse? s = some v) : v.Distinct := by
  obtain ⟨d, -, hd⟩ := Option.bind_eq_some_iff.1 h
  obtain ⟨⟨w, n⟩, hvalue, rfl⟩ := Option.map_eq_some_iff.1 hd
  exact Document.distinct_of_valueOf hvalue

end

end Yaml

section
variable {files : Files} {path : String} {records : List Json}

theorem distinct_of_readDocument {v : Json} (h : readDocument files path = .ok v) : v.Distinct := by
  unfold readDocument at h
  split at h
  · cases h
  · cases h
  · split at h
    · split at h
      · next w hparse =>
        cases h
        exact Yaml.distinct_of_parse? hparse
      · cases h
    · split at h
      · next w hparse =>
        cases h
        exact Json.distinct_of_parse hparse
      · cases h

theorem distinct_of_readRecords (h : readRecords files path = .ok records) :
    ∀ record ∈ records, record.Distinct := by
  obtain ⟨v, hv, hrecords⟩ := readRecords_eq_ok_iff.1 h
  have hdistinct := distinct_of_readDocument hv
  cases hrecords with
  | items => exact Json.distinct_list_iff.1 hdistinct
  | single => exact List.forall_mem_singleton.2 hdistinct

/-! ## Records that are shown again -/

theorem Redaction.distinct_redact {v : Json} (h : v.Distinct) : (redact v).Distinct := by
  induction v using Json.parts_induction with
  | null | bool | number | text => exact Json.distinct_of_depth_eq_zero rfl
  | list items ih =>
    rw [redact_list]
    exact Json.distinct_list_iff.2 (List.forall_mem_map.2 fun v hv => ih v hv (Json.distinct_list_iff.1 h v hv))
  | object members ih =>
    obtain ⟨hkeys, hparts⟩ := Json.distinct_object_iff.1 h
    rw [redact_object]
    refine Json.distinct_object_iff.2 ⟨by rwa [List.map_map], List.forall_mem_map.2 fun e he => ?_⟩
    dsimp only [redactMember]
    split
    · exact Json.distinct_text _
    · exact ih e he (hparts e he)

theorem Schema.distinct_of_mem_echoes {s : Schema} {c : BatchSettings} {echo : Bool} {e : Echo}
    (h : ∀ record ∈ records, record.Distinct) (he : e ∈ (s.reportOn c echo (path, records)).echoes) :
    e.record.Distinct := by
  cases echo with
  | false => cases he
  | true =>
    obtain ⟨r, -, hshows⟩ := exists_of_mem_forall₂ (echoInvalid_shows s c records) he
    obtain ⟨record, hat, hrecord⟩ := hshows.record_eq
    rw [hrecord]
    exact Redaction.distinct_redact (h record (List.mem_of_getElem? hat))

end

/-! ## Documents that are written -/

theorem Constraint.distinct_toJson (c : Constraint) : c.toJson.Distinct :=
  Json.distinct_object_iff.2 ⟨by simp, by simp⟩

theorem FieldType.distinct_toJson (t : FieldType) : t.toJson.Distinct :=
  have hconstraints := Json.distinct_list_map fun c (_ : c ∈ t.constraints) => c.distinct_toJson
  Json.distinct_object_iff.2 ⟨by simp, by simp [hconstraints]⟩

theorem FieldSummary.distinct_toJson (f : FieldSummary) : f.toJson.Distinct :=
  have hsteps := Json.distinct_list_map fun step (_ : step ∈ f.steps) => Json.distinct_text step
  Json.distinct_object_iff.2 ⟨by simp, by simp [hsteps]⟩

theorem SchemaSummary.distinct_toJson (s : SchemaSummary) : s.toJson.Distinct :=
  have hfields := Json.distinct_list_map fun f (_ : f ∈ s.fields) => f.distinct_toJson
  Json.distinct_object_iff.2 ⟨by simp, by simp [hfields]⟩

/-- The report of a run over inputs that load. -/
theorem Schema.Takes.distinct_toJson {s : Schema} {c : BatchSettings} {echo : Bool} {files : Files}
    {inputs taken : List String} {run : FileRun} (h : s.Takes c echo files inputs taken (.ok run))
    (schema generatedAt : String) : (RunReport.toJson ⟨schema, generatedAt, run.files⟩).Distinct := by
  refine RunReport.distinct_toJson fun f hf e he => ?_
  obtain ⟨path, -, records, hload, rfl⟩ := exists_of_mem_forall₂ (h.forall₂ rfl) hf
  exact distinct_of_mem_echoes (distinct_of_readRecords hload) he

end FieldRules
