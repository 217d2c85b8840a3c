/-
The document of a run report. What it holds is said key by key (`RunReport.HeldBy`), without the way in which it
is written: the keys of every object in order, the counts as whole numbers, the texts and the records shown again
as they are. The main statement is `RunReport.render_faithful`: both JSON forms of a report are read as one
document, which holds the report and no other one.
-/
import FieldRules.Report.Run
import FieldRules.Proofs.Json.Layout
import Mathlib.Logic.Relator

namespace FieldRules

/-! ## What a document holds -/

namespace Json

/-- The keys of an object, in the order of its members. -/
def keys? : Json → Option (List String)
  | object members => some (members.map Prod.fst)
  | _ => none

def countUnder (key : String) (v : Json) : Option Nat :=
  (v.get? key).bind natural?

/-- The list under a key holds a list, item by item. -/
def HoldsUnder {α : Type} (v : Json) (holds : α → Json → Prop) (l : List α) (key : String) : Prop :=
  ∃ items, v.get? key = some (list items) ∧ List.Forall₂ holds l items

section
variable {α : Type} {holds : α → Json → Prop} {l l' : List α} {key : String} {v : Json}

theorem HoldsUnder.unique (hunique : Relator.LeftUnique holds) (h : v.HoldsUnder holds l key)
    (h' : v.HoldsUnder holds l' key) : l = l' := by
  obtain ⟨items, hitems, h⟩ := h
  obtain ⟨items', hitems', h'⟩ := h'
  cases hitems.symm.trans hitems'
  exact List.left_unique_forall₂' hunique h h'

theorem holdsUnder_of_map {f : α → Json} (hkey : v.get? key = some (list (l.map f))) (h : ∀ a ∈ l, holds a (f a)) :
    v.HoldsUnder holds l key :=
  ⟨_, hkey, List.forall₂_map_right_iff.2 (List.forall₂_same.2 h)⟩

end

end Json

structure FieldError.HeldBy (e : FieldError) (v : Json) : Prop where
  keys : v.keys? = some ["field", "error"]
  field : v.get? "field" = some (.text e.field)
  error : v.get? "error" = some (.text e.error)

structure RecordReport.HeldBy (r : RecordReport) (v : Json) : Prop where
  keys : v.keys? = some ["index", "errors"]
  index : v.countUnder "index" = some r.index
  errors : v.HoldsUnder FieldError.HeldBy r.errors "errors"

structure Echo.HeldBy (e : Echo) (v : Json) : Prop where
  keys : v.keys? = some ["index", "record"]
  index : v.countUnder "index" = some e.index
  record : v.get? "record" = some e.record

structure FileReport.HeldBy (f : FileReport) (v : Json) : Prop where
  /-- The parts of the batch report stand beside the path. -/
  keys : v.keys? = some (["path", "total", "checked", "invalid", "truncated"] ++
    if f.echoes.isEmpty then [] else ["echoed"])
  path : v.get? "path" = some (.text f.path)
  total : v.countUnder "total" = some f.batch.total
  checked : v.countUnder "checked" = some f.batch.checked
  invalid : v.HoldsUnder RecordReport.HeldBy f.batch.invalid "invalid"
  truncated : v.get? "truncated" = some (.bool f.batch.truncated)
  echoed : f.echoes = [] ∧ v.get? "echoed" = none ∨ f.echoes ≠ [] ∧ v.HoldsUnder Echo.HeldBy f.echoes "echoed"

structure RunReport.HeldBy (r : RunReport) (v : Json) : Prop where
  keys : v.keys? = some ["schema", "generated_at", "files"]
  schema : v.get? "schema" = some (.text r.schema)
  generatedAt : v.get? "generated_at" = some (.text r.generatedAt)
  files : v.HoldsUnder FileReport.HeldBy r.files "files"

/-! ## A document holds one report -/

theorem FieldError.heldBy_unique : Relator.LeftUnique FieldError.HeldBy := by
  rintro ⟨field, error⟩ ⟨field', error'⟩ v h h'
  cases h.field.symm.trans h'.field
  cases h.error.symm.trans h'.error
  rfl

theorem RecordReport.heldBy_unique : Relator.LeftUnique RecordReport.HeldBy := by
  rintro ⟨index, errors⟩ ⟨index', errors'⟩ v h h'
  cases h.index.symm.trans h'.index
  cases h.errors.unique FieldError.heldBy_unique h'.errors
  rfl

theorem Echo.heldBy_unique : Relator.LeftUnique Echo.HeldBy := by
  rintro ⟨index, record⟩ ⟨index', record'⟩ v h h'
  cases h.index.symm.trans h'.index
  cases h.record.symm.trans h'.record
  rfl

theorem FileReport.heldBy_unique : Relator.LeftUnique FileReport.HeldBy := by
  rintro ⟨path, ⟨total, checked, invalid, truncated⟩, echoes⟩ ⟨path', ⟨total', checked', invalid', truncated'⟩, echoes'⟩
    v h h'
  cases h.path.symm.trans h'.path
  cases h.total.symm.trans h'.total
  cases h.checked.symm.trans h'.checked
  cases h.invalid.unique RecordReport.heldBy_unique h'.invalid
  cases h.truncated.symm.trans h'.truncated
  have hechoes : echoes = echoes' := by
    rcases h.echoed with ⟨hnil, hnone⟩ | ⟨-, hecho⟩ <;> rcases h'.echoed with ⟨hnil', hnone'⟩ | ⟨-, hecho'⟩
    · exact hnil.trans hnil'.symm
    · obtain ⟨items, hitems, -⟩ := hecho'
      cases hnone.symm.trans hitems
    · obtain ⟨items, hitems, -⟩ := hecho
      cases hnone'.symm.trans hitems
    · exact hecho.unique Echo.heldBy_unique hecho'
  rw [hechoes]

theorem RunReport.heldBy_unique : Relator.LeftUnique RunReport.HeldBy := by
  rintro ⟨schema, generatedAt, files⟩ ⟨schema', generatedAt', files'⟩ v h h'
  cases h.schema.symm.trans h'.schema
  cases h.generatedAt.symm.trans h'.generatedAt
  cases h.files.unique FileReport.heldBy_unique h'.files
  rfl

/-! ## The document of a report -/

/-- The counts are numbers of 64 bits, and the records shown again are JSON documents, which repeat no key. -/
structure FileReport.Fits (f : FileReport) : Prop where
  total_lt : f.batch.total < twoPow 64
  checked_lt : f.batch.checked < twoPow 64
  invalid_lt : ∀ r ∈ f.batch.invalid, r.index < twoPow 64
  echoes_lt : ∀ e ∈ f.echoes, e.index < twoPow 64
  records_distinct : ∀ e ∈ f.echoes, e.record.Distinct

theorem FieldError.heldBy_toJson (e : FieldError) : e.HeldBy e.toJson :=
  ⟨rfl, rfl, rfl⟩

theorem RecordReport.heldBy_toJson {r : RecordReport} (h : r.index < twoPow 64) : r.HeldBy r.toJson :=
  ⟨rfl, Json.natural?_ofNat h, Json.holdsUnder_of_map rfl fun e _ => e.heldBy_toJson⟩

theorem Echo.heldBy_toJson {e : Echo} (h : e.index < twoPow 64) : e.HeldBy e.toJson :=
  ⟨rfl, Json.natural?_ofNat h, rfl⟩

theorem FileReport.heldBy_toJson {f : FileReport} (h : f.Fits) : f.HeldBy f.toJson where
  keys := by
    unfold toJson
    split <;> rfl
  path := rfl
  total := Json.natural?_ofNat h.total_lt
  checked := Json.natural?_ofNat h.checked_lt
  invalid := Json.holdsUnder_of_map rfl fun r hr => RecordReport.heldBy_toJson (h.invalid_lt r hr)
  truncated := rfl
  echoed := by
    have hechoes := h.echoes_lt
    unfold toJson
    cases hlist : f.echoes with
    | nil => exact Or.inl ⟨rfl, rfl⟩
    | cons e echoes =>
      rw [hlist] at hechoes
      exact Or.inr ⟨List.cons_ne_nil e echoes, Json.holdsUnder_of_map rfl fun e he => Echo.heldBy_toJson (hechoes e he)⟩

theorem RunReport.heldBy_toJson {r : RunReport} (h : ∀ f ∈ r.files, f.Fits) : r.HeldBy r.toJson :=
  ⟨rfl, rfl, rfl, Json.holdsUnder_of_map rfl fun f hf => FileReport.heldBy_toJson (h f hf)⟩

/-! ## Its keys and its depth -/

namespace Json

@[simp] theorem distinct_text (s : String) : (text s).Distinct :=
  distinct_of_depth_eq_zero rfl

@[simp] theorem distinct_ofNat (n : Nat) : (ofNat n).Distinct :=
  distinct_of_depth_eq_zero rfl

@[simp] theorem distinct_bool (b : Bool) : (bool b).Distinct :=
  distinct_of_depth_eq_zero rfl

@[simp] theorem depth_text (s : String) : (text s).depth = 0 :=
  rfl

@[simp] theorem depth_ofNat (n : Nat) : (ofNat n).depth = 0 :=
  rfl

@[simp] theorem depth_bool (b : Bool) : (bool b).depth = 0 :=
  rfl

theorem distinct_list_map {α : Type} {l : List α} {f : α → Json} (h : ∀ a ∈ l, (f a).Distinct) :
    (list (l.map f)).Distinct :=
  distinct_list_iff.2 (List.forall_mem_map.2 h)

theorem depth_list_map_le {α : Type} {l : List α} {f : α → Json} {n : Nat} (h : ∀ a ∈ l, (f a).depth ≤ n) :
    (list (l.map f)).depth ≤ n + 1 :=
  depth_list_le_iff.2 (List.forall_mem_map.2 h)

end Json

theorem FieldError.distinct_toJson (e : FieldError) : e.toJson.Distinct :=
  Json.distinct_object_iff.2 ⟨by simp, by simp⟩

theorem RecordReport.distinct_toJson (r : RecordReport) : r.toJson.Distinct :=
  have herrors := Json.distinct_list_map fun e (_ : e ∈ r.errors) => e.distinct_toJson
  Json.distinct_object_iff.2 ⟨by simp, by simp [herrors]⟩

theorem Echo.distinct_toJson {e : Echo} (h : e.record.Distinct) : e.toJson.Distinct :=
  Json.distinct_object_iff.2 ⟨by simp, by simp [h]⟩

theorem FileReport.distinct_toJson {f : FileReport} (h : ∀ e ∈ f.echoes, e.record.Distinct) : f.toJson.Distinct := by
  have hinvalid := Json.distinct_list_map fun r (_ : r ∈ f.batch.invalid) => r.distinct_toJson
  have hechoes := Json.distinct_list_map fun e he => Echo.distinct_toJson (h e he)
  unfold toJson
  split
  · exact Json.distinct_object_iff.2 ⟨by simp [BatchReport.members],
      by simp [BatchReport.members, hinvalid]⟩
  · exact Json.distinct_object_iff.2 ⟨by simp [BatchReport.members],
      by simp [BatchReport.members, hinvalid, hechoes]⟩

theorem RunReport.distinct_toJson {r : RunReport} (h : ∀ f ∈ r.files, ∀ e ∈ f.echoes, e.record.Distinct) :
    r.toJson.Distinct :=
  have hfiles := Json.distinct_list_map fun f hf => FileReport.distinct_toJson (h f hf)
  Json.distinct_object_iff.2 ⟨by simp, by simp [hfiles]⟩

theorem FieldError.depth_toJson_le (e : FieldError) : e.toJson.depth ≤ 1 :=
  Json.depth_object_le_iff.2 (by simp)

theorem RecordReport.depth_toJson_le (r : RecordReport) : r.toJson.depth ≤ 3 :=
  have herrors := Json.depth_list_map_le fun e (_ : e ∈ r.errors) => e.depth_toJson_le
  Json.depth_object_le_iff.2 (by simp [herrors])

section
variable {n : Nat}

theorem Echo.depth_toJson_le {e : Echo} (h : e.record.depth ≤ n) : e.toJson.depth ≤ n + 1 :=
  Json.depth_object_le_iff.2 (by simp [h])

theorem FileReport.depth_toJson_le {f : FileReport} (h : ∀ e ∈ f.echoes, e.record.depth ≤ n) :
    f.toJson.depth ≤ max 2 n + 3 := by
  have hinvalid : (Json.list (f.batch.invalid.map RecordReport.toJson)).depth ≤ max 2 n + 2 :=
    Json.depth_list_map_le fun r _ => r.depth_toJson_le.trans (Nat.succ_le_succ (Nat.le_max_left 2 n))
  have hechoes : (Json.list (f.echoes.map Echo.toJson)).depth ≤ max 2 n + 2 :=
    Json.depth_list_map_le fun e he => Echo.depth_toJson_le ((h e he).trans (Nat.le_max_right 2 n))
  unfold toJson
  split
  · exact Json.depth_object_le_iff.2 (by simp [BatchReport.members, hinvalid])
  · exact Json.depth_object_le_iff.2 (by simp [BatchReport.members, hinvalid, hechoes])

theorem RunReport.depth_toJson_le {r : RunReport} (h : ∀ f ∈ r.files, ∀ e ∈ f.echoes, e.record.depth ≤ n) :
    r.toJson.depth ≤ max 2 n + 5 :=
  have hfiles := Json.depth_list_map_le fun f hf => FileReport.depth_toJson_le (h f hf)
  Json.depth_object_le_iff.2 (by simp [hfiles])

end

/-! ## The two texts -/

/-- Both JSON forms of a report are read as one document, as soon as the reader goes deep enough: the levels around a
record that is shown again are five, and there are seven in any case. The document holds the report and no other. -/
theorem RunReport.render_faithful {r : RunReport} (h : ∀ f ∈ r.files, f.Fits) :
    ∃ doc : Json,
      (∀ d, doc.depth < d → Json.parseWithin d (r.render .json) = .ok doc ∧
        Json.parseWithin d (r.render .jsonPretty) = .ok doc) ∧
      (∀ n, (∀ f ∈ r.files, ∀ e ∈ f.echoes, e.record.depth ≤ n) → doc.depth ≤ max 2 n + 5) ∧
      r.HeldBy doc ∧ ∀ r' : RunReport, r'.HeldBy doc → r' = r := by
  have hdistinct := RunReport.distinct_toJson fun f hf => (h f hf).records_distinct
  refine ⟨r.toJson, fun d hd => Json.parseWithin_texts hdistinct hd, fun n hn => RunReport.depth_toJson_le hn,
    RunReport.heldBy_toJson h, fun r' hr' => ?_⟩
  exact RunReport.heldBy_unique hr' (RunReport.heldBy_toJson h)

/-- A record with keys of the report, shown again, and an input without records. -/
def RunReport.sampleReport : RunReport :=
  ⟨"schema \"é\"\n", "2024-01-01",
    [⟨"in\\a.json", ⟨2, 1, [⟨0, [⟨"age", "too\tlow"⟩, ⟨"age", ""⟩]⟩], true⟩,
        [⟨0, .object [("echoed", .list [.null]), ("total", .number (.real (Binary64.zero true)))]⟩]⟩,
      ⟨"", ⟨0, 0, [], false⟩, []⟩]⟩

theorem RunReport.fits_sampleReport : ∀ f ∈ sampleReport.files, f.Fits := by
  have hlist : (Json.list [.null]).Distinct :=
    Json.distinct_list_iff.2 (List.forall_mem_singleton.2 (Json.distinct_of_depth_eq_zero rfl))
  have hrecord : (Json.object [("echoed", .list [.null]), ("total", .number (.real (Binary64.zero true)))]).Distinct :=
    Json.distinct_object_iff.2 ⟨by decide, List.forall_mem_cons.2 ⟨hlist,
      List.forall_mem_singleton.2 (Json.distinct_of_depth_eq_zero rfl)⟩⟩
  refine List.forall_mem_cons.2 ⟨⟨by decide, by decide, ?_, ?_, List.forall_mem_singleton.2 hrecord⟩,
    List.forall_mem_singleton.2 ⟨by decide, by decide, ?_, ?_, List.forall_mem_nil _⟩⟩
  · exact List.forall_mem_singleton.2 (by decide)
  · exact List.forall_mem_singleton.2 (by decide)
  · exact List.forall_mem_nil _
  · exact List.forall_mem_nil _

theorem RunReport.render_faithful_sampleReport : ∃ doc : Json,
    Json.parse (sampleReport.render .json) = .ok doc ∧ Json.parse (sampleReport.render .jsonPretty) = .ok doc ∧
    sampleReport.HeldBy doc := by
  obtain ⟨doc, hread, hdepth, hheld, -⟩ := render_faithful fits_sampleReport
  have hlimit : doc.depth < Json.depthLimit := by
    refine (hdepth 2 ?_).trans_lt (by decide)
    decide +kernel
  rw [← Json.parseWithin_depthLimit]
  exact ⟨doc, (hread _ hlimit).1, (hread _ hlimit).2, hheld⟩

end FieldRules
