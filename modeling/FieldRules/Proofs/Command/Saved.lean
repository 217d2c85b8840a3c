/-
Settings that are saved and loaded. A file may leave out sections and keys of the settings and may have keys in its
sections that no setting is under; it is loaded as the settings that it has and the defaults for the others
(`Settings.read_saved`). The text of all settings is the case in which nothing is left out. A section that is not
one of the settings is refused wherever it stands.
-/
import FieldRules.Command.Document
import FieldRules.Proofs.Json.Layout
import FieldRules.Proofs.Json.Record

namespace FieldRules

/-! ## Parts of an object -/

namespace Json

/-- The text spells the value, however deep the value nests. -/
def Spells (s : String) (v : Json) : Prop :=
  ∃ d s', (Cursor.start s).spelled d = .ok (v, s') ∧ s'.finish = .ok ()

theorem spells_compact (v : Json) : Spells v.compact v :=
  ⟨v.depth + 1, Cursor.laysOut_chars.exists_spelled 0 (Nat.lt_succ_self _)⟩

theorem spells_indented (v : Json) : Spells v.indented v :=
  ⟨v.depth + 1, Cursor.laysOut_indentedChars.exists_spelled 0 (Nat.lt_succ_self _)⟩

/-- Some of the members of an object, each at most once and in any order, among members under other keys. -/
inductive PartOf : Json → Json → Prop
  | object {ms whole : List (String × Json)} :
      (ms.filter (·.1 ∈ whole.map Prod.fst)).Subperm whole → PartOf (.object ms) (.object whole)

theorem PartOf.refl (ms : List (String × Json)) : PartOf (.object ms) (.object ms) :=
  .object List.filter_sublist.subperm

/-- A member that has its content from the whole. -/
def Taken (whole : List (String × Json)) (key : String) (v w : Json) : Prop :=
  (key, v) ∈ whole ∧ w = v

/-- What is found of a part. -/
abbrev FoundIn (whole ms found : List (String × Json)) : Prop :=
  Shape.Found (Taken whole) (whole.map Prod.fst) false [] ms found

/-- The object has the section, and the section has the key. -/
def sets (v : Json) (part key : String) : Bool :=
  ((v.get? part).bind (get? key)).isSome

variable {whole ms found : List (String × Json)} {key : String}

theorem exists_foundIn (hwhole : (whole.map Prod.fst).Nodup)
    (h : (ms.filter (·.1 ∈ whole.map Prod.fst)).Subperm whole) : ∃ found, FoundIn whole ms found := by
  obtain ⟨l, hperm, hsub⟩ := h
  refine Shape.exists_found (fun e he hname => ⟨e.2, ?_, rfl⟩) nofun ?_ fun e _ _ => List.not_mem_nil
  · exact hsub.subset (hperm.mem_iff.2 (List.mem_filter.2 ⟨he, decide_eq_true hname⟩))
  · exact (hperm.map Prod.fst).nodup_iff.1 ((hsub.map Prod.fst).nodup hwhole)

theorem get?_foundIn (hwhole : (whole.map Prod.fst).Nodup) (h : FoundIn whole ms found)
    (hkey : key ∈ whole.map Prod.fst) :
    (object found).get? key = if ((object ms).get? key).isSome then (object whole).get? key else none := by
  rcases h.lookup hkey with ⟨hms, hfound⟩ | ⟨v, w, hms, hfound, hmem, rfl⟩
  · simp only [get?, hms, hfound, Option.isSome_none, Bool.false_eq_true, if_false]
  · simp only [get?, hms, hfound, Option.isSome_some, if_true, (Entries.lookup_eq_some_iff_mem hwhole).2 hmem]

namespace Shape

/-- The shape is a record that need not be complete, with a field for each member that is read as its content. -/
inductive Describes : Shape → List (String × Json) → Prop
  | record {name : String} {fields : List (String × Shape)} {whole : List (String × Json)} :
      (whole.map Prod.fst).Nodup →
      List.Forall₂ (fun f e => f.1 = e.1 ∧ ∀ depth, Follows (read f.2 depth) e.2 e.2) fields whole →
      Describes (.record name false false fields) whole

theorem readers_eq_map (fields : List (String × Shape)) (depth : Nat) :
    readers fields depth = fields.map fun f => (f.1, read f.2 depth) := by
  induction fields with
  | nil => rfl
  | cons f fields ih =>
    rw [readers, ih]
    rfl

theorem parse_of_follows {shape : Shape} {s : String} {v w : Json} (h : Follows (read shape depthLimit) v w)
    (hs : Spells s v) : shape.parse s = .ok w := by
  obtain ⟨d, s', hread, hfinish⟩ := hs
  exact bind_eq_ok_iff.2 ⟨_, h hread, bind_eq_ok_iff.2 ⟨(), hfinish, rfl⟩⟩

theorem Describes.nodup {shape : Shape} (h : shape.Describes whole) : (whole.map Prod.fst).Nodup := by
  cases h
  assumption

theorem Describes.follows {shape : Shape} {depth : Nat} (h : shape.Describes whole) (hdepth : 1 < depth)
    (hfound : FoundIn whole ms found) : Follows (read shape depth) (.object ms) (.object found) := by
  cases h with
  | @record name fields _ hnodup hfields =>
    have hnames : (readers fields (depth - 1)).map Prod.fst = whole.map Prod.fst := by
      rw [readers_eq_map, List.map_map, ← List.forall₂_eq_eq_eq, List.forall₂_map_left_iff, List.forall₂_map_right_iff]
      exact hfields.imp fun _ _ h => h.1
    have hreaders : ReadersFollow (Taken whole) (readers fields (depth - 1)) := by
      -- no key stands twice in the whole, so the content that is taken is the one that the field is read as
      rintro key r hmem v w ⟨hv, rfl⟩
      rw [readers_eq_map] at hmem
      obtain ⟨f, hf, he⟩ := List.mem_map.1 hmem
      cases he
      obtain ⟨e, hmem, hkey, hread⟩ := exists_of_mem_forall₂ hfields.flip hf
      have he : e = (f.1, w) := List.inj_on_of_nodup_map hnodup hmem hv hkey.symm
      rw [he] at hread
      exact hread _
    intro d s s' hs
    rw [read]
    exact follows_record hdepth name hreaders (hnames ▸ hfound) hs

end Shape

theorem textUnder_foundIn (hwhole : (whole.map Prod.fst).Nodup) (h : FoundIn whole ms found)
    (hkey : key ∈ whole.map Prod.fst) :
    textUnder key (object found) = if ((object ms).get? key).isSome then textUnder key (object whole) else none := by
  rw [textUnder, get?_foundIn hwhole h hkey]
  split <;> rfl

theorem flagOr_foundIn (default : Bool) (hwhole : (whole.map Prod.fst).Nodup) (h : FoundIn whole ms found)
    (hkey : key ∈ whole.map Prod.fst) : flagOr default key (object found) =
      if ((object ms).get? key).isSome then flagOr default key (object whole) else default := by
  rw [flagOr, get?_foundIn hwhole h hkey]
  split <;> rfl

end Json

/-! ## Sections -/

namespace OutputSettings

variable {o : OutputSettings} {whole ms found : List (String × Json)}

/-- The settings under the keys that are set, with the defaults for the others. -/
def kept (o : OutputSettings) (sets : String → Bool) : OutputSettings where
  format := if sets "format" then o.format else none
  color := if sets "color" then o.color else true
  progress := if sets "progress" then o.progress else true

theorem kept_nothing : o.kept (fun _ => false) = standard :=
  rfl

theorem describes (h : o.toJson = .object whole) : shape.Describes whole := by
  cases h
  refine .record (by simp) (.cons ⟨rfl, fun depth => ?_⟩ (.cons ⟨rfl, fun depth => ?_⟩
    (.cons ⟨rfl, fun depth => ?_⟩ .nil)))
  · cases o.format with
    | none => exact Json.Shape.follows_null _ depth
    | some f =>
      have hname : f.name ∈ OutputFormat.all.map OutputFormat.name := List.mem_map_of_mem (by cases f <;> decide)
      exact Json.Shape.follows_optional_text (Json.Shape.follows_choice hname depth)
  · exact Json.Shape.follows_flag o.color depth
  · exact Json.Shape.follows_flag o.progress depth

theorem format_toJson : (textUnder "format" o.toJson).bind OutputFormat.ofName? = o.format := by
  have hunder : textUnder "format" o.toJson = o.format.map OutputFormat.name := by
    unfold toJson
    cases o.format <;> rfl
  rw [hunder]
  cases o.format with
  | none => rfl
  | some f => exact f.ofName?_name

theorem ofShaped_foundIn (hwhole : o.toJson = .object whole) (h : Json.FoundIn whole ms found) :
    ofShaped (.object found) = o.kept fun key => ((Json.object ms).get? key).isSome := by
  have hnodup := (describes hwhole).nodup
  have hkeys : whole.map Prod.fst = ["format", "color", "progress"] := by cases hwhole; rfl
  unfold ofShaped kept
  rw [Json.textUnder_foundIn hnodup h (by simp [hkeys]), Json.flagOr_foundIn _ hnodup h (by simp [hkeys]),
    Json.flagOr_foundIn _ hnodup h (by simp [hkeys]), ← hwhole]
  congr 1
  split
  · exact format_toJson
  · rfl

end OutputSettings

namespace LogSection

variable {l : LogSection} {whole ms found : List (String × Json)}

/-- The settings under the keys that are set, with the defaults for the others. -/
def kept (l : LogSection) (sets : String → Bool) : LogSection where
  level := if sets "level" then l.level else none
  format := if sets "format" then l.format else none
  threadIds := if sets "thread_ids" then l.threadIds else false

theorem kept_nothing : l.kept (fun _ => false) = standard :=
  rfl

theorem describes (h : l.toJson = .object whole) : shape.Describes whole := by
  cases h
  exact .record (by simp) (.cons ⟨rfl, Json.Shape.follows_ofOption_text l.level⟩
    (.cons ⟨rfl, Json.Shape.follows_ofOption_text l.format⟩ (.cons ⟨rfl, Json.Shape.follows_flag l.threadIds⟩ .nil)))

theorem ofShaped_foundIn (hwhole : l.toJson = .object whole) (h : Json.FoundIn whole ms found) :
    ofShaped (.object found) = l.kept fun key => ((Json.object ms).get? key).isSome := by
  have hnodup := (describes hwhole).nodup
  have hkeys : whole.map Prod.fst = ["level", "format", "thread_ids"] := by cases hwhole; rfl
  have hlevel : textUnder "level" l.toJson = l.level := by
    unfold toJson
    cases l.level <;> rfl
  have hformat : textUnder "format" l.toJson = l.format := by
    unfold toJson
    cases l.format <;> rfl
  unfold ofShaped kept
  rw [Json.textUnder_foundIn hnodup h (by simp [hkeys]), Json.textUnder_foundIn hnodup h (by simp [hkeys]),
    Json.flagOr_foundIn _ hnodup h (by simp [hkeys]), ← hwhole, hlevel, hformat]
  rfl

end LogSection

namespace BatchSettings

variable {b : BatchSettings} {whole ms found : List (String × Json)}

/-- The settings under the keys that are set, with the defaults for the others. -/
def kept (b : BatchSettings) (sets : String → Bool) : BatchSettings where
  failFast := if sets "fail_fast" then b.failFast else false
  maxErrors := if sets "max_errors" then b.maxErrors else 0

theorem kept_nothing : b.kept (fun _ => false) = standard :=
  rfl

theorem describes (h : b.toJson = .object whole) : shape.Describes whole := by
  cases h
  exact .record (by simp) (.cons ⟨rfl, Json.Shape.follows_flag b.failFast⟩
    (.cons ⟨rfl, Json.Shape.follows_count _⟩ .nil))

theorem ofShaped_foundIn (hmax : b.maxErrors < twoPow 64) (hwhole : b.toJson = .object whole)
    (h : Json.FoundIn whole ms found) :
    ofShaped (.object found) = b.kept fun key => ((Json.object ms).get? key).isSome := by
  have hnodup := (describes hwhole).nodup
  have hkeys : whole.map Prod.fst = ["fail_fast", "max_errors"] := by cases hwhole; rfl
  have hcount : (b.toJson.get? "max_errors").bind Json.natural? = some b.maxErrors := Json.natural?_ofNat hmax
  unfold ofShaped kept
  rw [Json.get?_foundIn hnodup h (by simp [hkeys]), Json.get?_foundIn hnodup h (by simp [hkeys]), ← hwhole]
  congr 1
  · split <;> rfl
  · split
    · rw [hcount]
      rfl
    · rfl

end BatchSettings

/-! ## Settings -/

namespace Settings

variable {c : Settings} {doc top : List (String × Json)} {name : String}

def sectionNames : List String :=
  ["output", "logging", "validation"]

/-- The settings that the document sets, with the defaults for the others. -/
def kept (c : Settings) (doc : Json) : Settings where
  output := c.output.kept (doc.sets "output")
  logging := c.logging.kept (doc.sets "logging")
  validation := c.validation.kept (doc.sets "validation")

/-- The members of a document are sections of the settings, each at most once, with some of its keys. -/
structure HoldsPart (c : Settings) (doc : List (String × Json)) : Prop where
  nodup : (doc.map Prod.fst).Nodup
  sections : ∀ e ∈ doc, ∃ whole, c.toJson.get? e.1 = some whole ∧ e.2.PartOf whole

/-- What a section of a document is read as. -/
def SectionRead (c : Settings) (name : String) (v w : Json) : Prop :=
  ∃ whole ms found, c.toJson.get? name = some (.object whole) ∧ v = .object ms ∧ w = .object found ∧
    Json.FoundIn whole ms found

/-- The fields of a settings file. -/
def fields : List (String × Json.Shape) :=
  [("output", OutputSettings.shape), ("logging", LogSection.shape), ("validation", BatchSettings.shape)]

theorem exists_describes {whole : List (String × Json)} (h : c.toJson.get? name = some (.object whole)) :
    ∃ shape, (name, shape) ∈ fields ∧ shape.Describes whole := by
  have hmem := Entries.mem_of_lookup h
  simp only [List.mem_cons, Prod.mk.injEq, List.not_mem_nil, or_false] at hmem
  rcases hmem with ⟨rfl, hwhole⟩ | ⟨rfl, hwhole⟩ | ⟨rfl, hwhole⟩
  · exact ⟨_, .head _, OutputSettings.describes hwhole.symm⟩
  · exact ⟨_, .tail _ (.head _), LogSection.describes hwhole.symm⟩
  · exact ⟨_, .tail _ (.tail _ (.head _)), BatchSettings.describes hwhole.symm⟩

theorem readersFollow {depth : Nat} (hdepth : 1 < depth) :
    Json.Shape.ReadersFollow c.SectionRead (Json.Shape.readers fields depth) := by
  rintro name r hmem v w ⟨whole, ms, found, hwhole, rfl, rfl, hfound⟩
  obtain ⟨shape, hshape, hdescribes⟩ := exists_describes hwhole
  rw [Json.Shape.readers_eq_map] at hmem
  obtain ⟨f, hf, he⟩ := List.mem_map.1 hmem
  cases he
  have he : f = (f.1, shape) := List.inj_on_of_nodup_map (by decide : (fields.map Prod.fst).Nodup) hf hshape rfl
  rw [he]
  exact hdescribes.follows hdepth hfound

/-- A document with some of the sections is read section by section. -/
theorem HoldsPart.exists_found (h : c.HoldsPart doc) :
    ∃ top, Json.Shape.Found c.SectionRead sectionNames true [] doc top := by
  refine Json.Shape.exists_found (fun e he _ => ?_) (fun _ e he => ?_) ?_ fun e _ _ => List.not_mem_nil
  · obtain ⟨name, v⟩ := e
    obtain ⟨w, hwhole, hpart⟩ := h.sections _ he
    cases hpart with
    | @object ms whole hsub =>
      obtain ⟨shape, -, hdescribes⟩ := exists_describes hwhole
      obtain ⟨found, hfound⟩ := Json.exists_foundIn hdescribes.nodup hsub
      exact ⟨.object found, whole, ms, found, hwhole, rfl, rfl, hfound⟩
  · obtain ⟨w, hwhole, hpart⟩ := h.sections _ he
    exact List.mem_map_of_mem (f := Prod.fst) (Entries.mem_of_lookup hwhole)
  · exact (List.filter_sublist.map Prod.fst).nodup h.nodup

/-- A section that is read is what the document sets of it, and a section that is left out is standard. -/
theorem section_kept {α : Type} {ofShaped : Json → α} {standard : α} {kept : (String → Bool) → α}
    {whole : List (String × Json)}
    (htop : Json.Shape.Found c.SectionRead sectionNames true [] doc top)
    (hwhole : c.toJson.get? name = some (.object whole))
    (hkept : ∀ ms found, Json.FoundIn whole ms found →
      ofShaped (.object found) = kept fun key => ((Json.object ms).get? key).isSome)
    (hstandard : kept (fun _ => false) = standard) :
    (((Json.object top).get? name).map ofShaped).getD standard = kept ((Json.object doc).sets name) := by
  have hname : name ∈ sectionNames :=
    List.mem_map_of_mem (f := Prod.fst) (Entries.mem_of_lookup hwhole)
  rcases htop.lookup hname with ⟨hdoc, hnone⟩ | ⟨v, w, hdoc, hsome, whole', ms, found, hwhole', rfl, rfl, hfound⟩
  · have hsets : (Json.object doc).sets name = fun _ => false := by
      funext key
      simp only [Json.sets, Json.get?, hdoc, Option.bind_none, Option.isSome_none]
    rw [hsets, Json.get?, hnone, hstandard]
    rfl
  · cases hwhole.symm.trans hwhole'
    have hsets : (Json.object doc).sets name = fun key => ((Json.object ms).get? key).isSome := by
      funext key
      simp only [Json.sets, Json.get?, hdoc, Option.bind_some]
    rw [hsets, ← hkept ms found hfound, Json.get?, hsome]
    rfl

theorem ofShaped_found (hmax : c.validation.maxErrors < twoPow 64)
    (htop : Json.Shape.Found c.SectionRead sectionNames true [] doc top) :
    ofShaped (.object top) = c.kept (.object doc) := by
  have houtput : (((Json.object top).get? "output").map OutputSettings.ofShaped).getD .standard =
      c.output.kept ((Json.object doc).sets "output") :=
    section_kept htop rfl (fun _ _ => OutputSettings.ofShaped_foundIn rfl) OutputSettings.kept_nothing
  have hlogging : (((Json.object top).get? "logging").map LogSection.ofShaped).getD .standard =
      c.logging.kept ((Json.object doc).sets "logging") :=
    section_kept htop rfl (fun _ _ => LogSection.ofShaped_foundIn rfl) LogSection.kept_nothing
  have hvalidation : (((Json.object top).get? "validation").map BatchSettings.ofShaped).getD .standard =
      c.validation.kept ((Json.object doc).sets "validation") :=
    section_kept htop rfl (fun _ _ => BatchSettings.ofShaped_foundIn hmax rfl) BatchSettings.kept_nothing
  rw [ofShaped, houtput, hlogging, hvalidation]
  rfl

/-- A document with some of the settings is read as those, whatever text spells it. -/
theorem ofText_of_holdsPart (hmax : c.validation.maxErrors < twoPow 64) (h : c.HoldsPart doc) {s : String}
    (hs : Json.Spells s (.object doc)) : ofText s = .ok (c.kept (.object doc)) := by
  obtain ⟨top, htop⟩ := h.exists_found
  have hread : Json.Follows (Json.Shape.read shape Json.depthLimit) (.object doc) (.object top) := by
    intro d s s' hs
    rw [shape, Json.Shape.read]
    exact Json.Shape.follows_record (by decide) _ (readersFollow (by decide)) htop hs
  rw [ofText, Json.Shape.parse_of_follows hread hs]
  exact congrArg Except.ok (ofShaped_found hmax htop)

/-! ## All settings -/

theorem kept_toJson (c : Settings) : c.kept c.toJson = c :=
  rfl

theorem holdsPart_toJson {members : List (String × Json)} (h : c.toJson = .object members) : c.HoldsPart members := by
  cases h
  refine ⟨by simp, fun e he => ?_⟩
  simp only [List.mem_cons, List.not_mem_nil, or_false] at he
  rcases he with rfl | rfl | rfl
  · exact ⟨c.output.toJson, rfl, Json.PartOf.refl _⟩
  · exact ⟨c.logging.toJson, rfl, Json.PartOf.refl _⟩
  · exact ⟨c.validation.toJson, rfl, Json.PartOf.refl _⟩

/-! ## Other keys -/

theorem kept_congr {v w : Json} (h : ∀ part key, c.toJson.sets part key = true → v.sets part key = w.sets part key) :
    c.kept v = c.kept w := by
  simp only [kept, OutputSettings.kept, LogSection.kept, BatchSettings.kept, h "output" "format" rfl,
    h "output" "color" rfl, h "output" "progress" rfl, h "logging" "level" rfl, h "logging" "format" rfl,
    h "logging" "thread_ids" rfl, h "validation" "fail_fast" rfl, h "validation" "max_errors" rfl]

variable {before after ms ms' : List (String × Json)} {key : String} {v : Json}

/-- A key in a section that no setting is under does not make a part of the settings another part. -/
theorem HoldsPart.insert_key (h : c.HoldsPart (before ++ (name, .object (ms ++ ms')) :: after))
    (hkey : c.toJson.sets name key = false) :
    c.HoldsPart (before ++ (name, .object (ms ++ (key, v) :: ms')) :: after) := by
  refine ⟨by simpa using h.nodup, fun e he => ?_⟩
  rw [List.mem_append, List.mem_cons] at he
  have hsame : e ∈ before ∨ e ∈ after → ∃ whole, c.toJson.get? e.1 = some whole ∧ e.2.PartOf whole := fun he =>
    h.sections e (by rw [List.mem_append, List.mem_cons]; tauto)
  rcases he with he | rfl | he
  · exact hsame (Or.inl he)
  · obtain ⟨w, hwhole, hpart⟩ := h.sections _ (List.mem_append_right _ List.mem_cons_self)
    refine ⟨w, hwhole, ?_⟩
    cases hpart with
    | @object _ whole hsub =>
      have hother : key ∉ whole.map Prod.fst := by
        rw [Json.sets, hwhole] at hkey
        exact Entries.lookup_eq_none_iff.1 (Option.isNone_iff_eq_none.1 (Option.isSome_eq_false_iff.1 hkey))
      -- the new member is not among those that have to be in the whole
      refine .object ?_
      rw [List.filter_append] at hsub ⊢
      rwa [List.filter_cons_of_neg (by simpa using hother)]
  · exact hsame (Or.inr he)

theorem sets_insert_key {part key' : String} (h : ¬ (part = name ∧ key' = key)) :
    (Json.object (before ++ (name, .object (ms ++ (key, v) :: ms')) :: after)).sets part key' =
      (Json.object (before ++ (name, .object (ms ++ ms')) :: after)).sets part key' := by
  simp only [Json.sets, Json.get?, Entries.lookup_append, Entries.lookup]
  cases Entries.lookup part before with
  | some w => rfl
  | none =>
    by_cases hname : name = part
    · have hkey : ¬ key = key' := fun he => h ⟨hname.symm, he.symm⟩
      simp only [if_pos hname, Option.none_or, Option.bind_some, Json.get?, Entries.lookup_append, Entries.lookup,
        if_neg hkey]
    · simp only [if_neg hname]

theorem kept_insert_key (hkey : c.toJson.sets name key = false) :
    c.kept (.object (before ++ (name, .object (ms ++ (key, v) :: ms')) :: after)) =
      c.kept (.object (before ++ (name, .object (ms ++ ms')) :: after)) := by
  refine kept_congr fun part key' hset => sets_insert_key ?_
  rintro ⟨rfl, rfl⟩
  exact Bool.false_ne_true (hkey.symm.trans hset)

/-- Next to parts of the settings, a section that is not one of theirs is refused, wherever it stands. -/
theorem ofText_of_unknown (h : c.HoldsPart (before ++ after)) (hkey : key ∉ sectionNames) {s : String}
    (hs : Json.Spells s (.object (before ++ (key, v) :: after))) :
    ∃ place, ofText s = .error (.misfit (.unknownField key sectionNames) place) := by
  have hbefore : c.HoldsPart before :=
    ⟨((List.sublist_append_left before after).map Prod.fst).nodup h.nodup,
      fun e he => h.sections e (List.mem_append_left after he)⟩
  obtain ⟨top, htop⟩ := hbefore.exists_found
  obtain ⟨d, s', hread, -⟩ := hs
  have hdepth : 1 < Json.depthLimit - 1 := by decide
  obtain ⟨place, hplace⟩ := Json.Shape.readRecord_unknown (Nat.lt_of_lt_of_le hdepth (Nat.sub_le _ _)) "Config"
    (readersFollow (c := c) hdepth) hkey htop hread
  refine ⟨place, ?_⟩
  have hparse : shape.parse s = .error (.misfit (.unknownField key sectionNames) place) := by
    rw [Json.Shape.parse, shape, Json.Shape.read]
    exact congrArg (· >>= _) hplace
  rw [ofText, hparse]
  rfl

/-! ## Files -/

/-- Settings are loaded from either text of them. From a document with some of their sections and some of their keys
those are loaded, with the defaults for the others, and a key more in a section changes nothing. A document with
another section is refused. -/
theorem read_saved (c : Settings) (hmax : c.validation.maxErrors < twoPow 64) (files : Files) (path s : String)
    (hjson : isYamlPath path = false) (hfile : files path = .text s) :
    (s = c.toJson.compact ∨ s = c.toJson.indented → Settings.read files path = .ok c) ∧
    (∀ doc, c.HoldsPart doc → Json.Spells s (.object doc) →
      Settings.read files path = .ok (c.kept (.object doc))) ∧
    (∀ before name ms ms' after key v, c.HoldsPart (before ++ (name, .object (ms ++ ms')) :: after) →
      c.toJson.sets name key = false →
      Json.Spells s (.object (before ++ (name, .object (ms ++ (key, v) :: ms')) :: after)) →
      Settings.read files path = .ok (c.kept (.object (before ++ (name, .object (ms ++ ms')) :: after)))) ∧
    (∀ before after key v, c.HoldsPart (before ++ after) → key ∉ sectionNames →
      Json.Spells s (.object (before ++ (key, v) :: after)) →
      ∃ place, Settings.read files path = .error (.config
        (path ++ ": " ++ (Json.Fault.misfit (.unknownField key sectionNames) place).message))) := by
  have hread : Settings.read files path = (ofText s).mapError fun e => .config (path ++ ": " ++ e.message) := by
    unfold Settings.read
    simp only [hfile, hjson, Bool.false_eq_true, if_false]
  have hpart : ∀ doc, c.HoldsPart doc → Json.Spells s (.object doc) →
      Settings.read files path = .ok (c.kept (.object doc)) := by
    intro doc hdoc hs
    rw [hread, ofText_of_holdsPart hmax hdoc hs]
    rfl
  refine ⟨?_, hpart, ?_, ?_⟩
  · intro hs
    have hspells : Json.Spells s c.toJson := by
      rcases hs with rfl | rfl
      · exact Json.spells_compact c.toJson
      · exact Json.spells_indented c.toJson
    rw [← kept_toJson c]
    exact hpart _ (holdsPart_toJson rfl) hspells
  · intro before name ms ms' after key v hdoc hkey hs
    rw [← kept_insert_key hkey]
    exact hpart _ (hdoc.insert_key hkey) hs
  · intro before after key v hdoc hkey hs
    obtain ⟨place, hplace⟩ := ofText_of_unknown hdoc hkey hs
    refine ⟨place, ?_⟩
    rw [hread, hplace]
    rfl

/-- Settings of which none is the default, with the greatest cap. -/
def sampleSettings : Settings where
  output := ⟨some .jsonPretty, false, false⟩
  logging := ⟨some "debug", some "é", true⟩
  validation := ⟨true, 18446744073709551615⟩

/-- The whole text; a text of two sections, with a key of the output in the log; and one with another section. -/
theorem read_saved_sampleSettings :
    Settings.read (fun _ => .text sampleSettings.toJson.indented) "fieldcheck.json" = .ok sampleSettings ∧
    Settings.read
      (fun _ => .text "\x7b\"logging\": \x7b\"color\": [null], \"thread_ids\": true\x7d, \"output\": \x7b\x7d\x7d")
      "fieldcheck.json" = .ok ⟨⟨none, true, true⟩, ⟨none, none, true⟩, ⟨false, 0⟩⟩ ∧
    ∃ place, Settings.read (fun _ => .text "\x7b\"output\": \x7b\x7d, \"Output\": null\x7d") "fieldcheck.json" =
      .error (.config ("fieldcheck.json" ++ ": " ++
        (Json.Fault.misfit (.unknownField "Output" sectionNames) place).message)) := by
  have hmax : sampleSettings.validation.maxErrors < twoPow 64 := by decide
  have hjson : isYamlPath "fieldcheck.json" = false := by decide
  have houtput : Json.PartOf (.object []) sampleSettings.output.toJson := .object List.nil_subperm
  have hlogging : Json.PartOf (.object ([] ++ [("thread_ids", .bool true)])) sampleSettings.logging.toJson :=
    .object (by simp [List.filter, sampleSettings])
  have hpart : sampleSettings.HoldsPart
      ([] ++ ("logging", .object ([] ++ [("thread_ids", .bool true)])) :: [("output", .object [])]) := by
    refine ⟨by simp, ?_⟩
    simp only [List.nil_append, List.forall_mem_cons]
    exact ⟨⟨_, rfl, hlogging⟩, ⟨_, rfl, houtput⟩, List.forall_mem_nil _⟩
  have hsection : sampleSettings.HoldsPart ([("output", .object [])] ++ []) :=
    ⟨by simp, by simpa using ⟨_, rfl, houtput⟩⟩
  have hread := fun s => read_saved sampleSettings hmax (fun _ => .text s) "fieldcheck.json" s hjson rfl
  exact ⟨(hread _).1 (Or.inr rfl),
    (hread _).2.2.1 [] "logging" [] _ _ "color" (.list [.null]) hpart rfl ⟨4, _, rfl, rfl⟩,
    (hread _).2.2.2 _ [] "Output" .null hsection (by decide) ⟨3, _, rfl, rfl⟩⟩

end Settings

end FieldRules
