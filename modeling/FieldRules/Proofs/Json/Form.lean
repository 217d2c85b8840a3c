/-
Shapes that ask for a form alone. A shape of lists, tables and values of any kind leaves what it accepts as it
is: `Shape.Asks shape P` says that testing a value by the shape succeeds exactly if the value has the form `P`,
and that reading a text by the shape succeeds exactly if the text spells a value of the form, and then gives
the merged value. `asks_any`, `Asks.list` and `Asks.table` build such forms, and `Asks.parse_eq_ok_iff` carries
them to whole texts.
-/
import FieldRules.Proofs.Json.Spelling

namespace FieldRules.Json

/-- A list of parts of a form. -/
def ListOf (P : Json → Prop) (v : Json) : Prop :=
  ∃ items, v = .list items ∧ ∀ w ∈ items, P w

/-- An object with contents of a form. -/
def TableOf (P : Json → Prop) (v : Json) : Prop :=
  ∃ members, v = .object members ∧ ∀ e ∈ members, P e.2

/-- Forms that do not depend on what is repeated hold after merging. -/
theorem ListOf.merged {P : Json → Prop} (hP : ∀ v, P v → P v.merged) {v : Json} (h : ListOf P v) :
    ListOf P v.merged := by
  obtain ⟨items, rfl, hitems⟩ := h
  rw [merged_list]
  exact ⟨_, rfl, List.forall_mem_map.2 fun w hw => hP w (hitems w hw)⟩

theorem TableOf.merged {P : Json → Prop} (hP : ∀ v, P v → P v.merged) {v : Json} (h : TableOf P v) :
    TableOf P v.merged := by
  obtain ⟨members, rfl, hmembers⟩ := h
  rw [merged_object]
  refine ⟨_, rfl, fun e he => ?_⟩
  obtain ⟨e', he', rfl⟩ := List.mem_map.1 (Entries.mem_of_mem_ofList he)
  exact hP _ (hmembers e' he')

namespace Shape

/-- The shape asks for nothing but the form. -/
structure Asks (shape : Shape) (P : Json → Prop) : Prop where
  conform_eq_ok_iff : ∀ {v w : Json}, shape.conform v = .ok w ↔ P v ∧ w = v
  lifts : ∀ depth : Nat, Cursor.Lifts P Json.merged (shape.read depth) (Cursor.spelled depth)

theorem unexpected_ne_ok {α : Type} {misfit : Json → Misfit} {s : Cursor} {a : α} : unexpected misfit s ≠ .ok a := by
  intro h
  unfold unexpected at h
  split at h
  · obtain ⟨r, -, h⟩ := bind_eq_ok_iff.1 h
    cases h
  · split at h
    · exact Cursor.fail_ne_ok h
    · split_ifs at h
      exact Cursor.failNext_ne_ok h

theorem asks_any : any.Asks fun _ => True where
  conform_eq_ok_iff {v w} := by
    rw [conform]
    exact ⟨fun h => by cases h; exact ⟨trivial, rfl⟩, fun ⟨_, h⟩ => by rw [h]⟩
  lifts depth := Cursor.lifts_value depth

variable {P : Json → Prop} {shape : Shape}

/-- A traversal whose items are kept as they are. -/
theorem mapM_eq_ok_self_iff {α : Type} {f : α → Except Misfit α} {Q : α → Prop}
    (h : ∀ {a b : α}, f a = .ok b ↔ Q a ∧ b = a) {l l' : List α} :
    l.mapM f = .ok l' ↔ (∀ a ∈ l, Q a) ∧ l' = l := by
  rw [mapM_eq_ok_iff]
  simp only [h]
  constructor
  · intro hl
    induction hl with
    | nil => exact ⟨List.forall_mem_nil _, rfl⟩
    | cons hab _ ih => exact ⟨List.forall_mem_cons.2 ⟨hab.1, ih.1⟩, by rw [hab.2, ih.2]⟩
  · rintro ⟨hl, rfl⟩
    exact List.forall₂_same.2 fun a ha => ⟨hl a ha, rfl⟩

theorem Asks.conform_list (h : shape.Asks P) {v w : Json} :
    (list shape).conform v = .ok w ↔ ListOf P v ∧ w = v := by
  cases v with
  | list items =>
    rw [conform, map_eq_ok_iff]
    simp only [mapM_eq_ok_self_iff h.conform_eq_ok_iff]
    constructor
    · rintro ⟨_, ⟨hitems, rfl⟩, rfl⟩
      exact ⟨⟨_, rfl, hitems⟩, rfl⟩
    · rintro ⟨⟨_, he, hitems⟩, rfl⟩
      cases he
      exact ⟨_, ⟨hitems, rfl⟩, rfl⟩
  | _ =>
    constructor
    · intro he
      cases he
    · rintro ⟨⟨_, he, -⟩, -⟩
      cases he

theorem Asks.conform_table {expected : String} (h : shape.Asks P) {v w : Json} :
    (table expected shape).conform v = .ok w ↔ TableOf P v ∧ w = v := by
  have hmember : ∀ {a b : String × Json},
      (shape.conform a.2).map (fun v => (a.1, v)) = .ok b ↔ P a.2 ∧ b = a := by
    intro a b
    rw [map_eq_ok_iff]
    simp only [h.conform_eq_ok_iff]
    constructor
    · rintro ⟨_, ⟨ha, rfl⟩, rfl⟩
      exact ⟨ha, rfl⟩
    · rintro ⟨ha, rfl⟩
      exact ⟨_, ⟨ha, rfl⟩, rfl⟩
  cases v with
  | object members =>
    rw [conform, map_eq_ok_iff]
    simp only [mapM_eq_ok_self_iff hmember]
    constructor
    · rintro ⟨_, ⟨hmembers, rfl⟩, rfl⟩
      exact ⟨⟨_, rfl, hmembers⟩, rfl⟩
    · rintro ⟨⟨_, he, hmembers⟩, rfl⟩
      cases he
      exact ⟨_, ⟨hmembers, rfl⟩, rfl⟩
  | _ =>
    constructor
    · intro he
      cases he
    · rintro ⟨⟨_, he, -⟩, -⟩
      cases he

/-! ## Reading -/

/-- A list is read by its shape at an opening bracket, if there are levels left. -/
theorem read_list_eq_ok_iff {depth : Nat} {s s' : Cursor} {v : Json} :
    (list shape).read depth s = .ok (v, s') ↔ s.skipBlanks.rest.head? = some '[' ∧ 1 < depth ∧
      ∃ vs, Cursor.listOf (shape.read (depth - 1)) s.skipBlanks = .ok (vs, s') ∧ v = .list vs := by
  rw [read]
  generalize s.skipBlanks = s
  split_ifs with hhead hdepth
  · exact ⟨fun he => (Cursor.failNext_ne_ok he).elim, fun he => (Nat.not_lt.2 hdepth he.2.1).elim⟩
  · constructor
    · intro he
      obtain ⟨⟨vs, s₁⟩, hvs, he⟩ := bind_eq_ok_iff.1 he
      obtain ⟨s₂, hclose, he⟩ := bind_eq_ok_iff.1 he
      cases he
      exact ⟨hhead, Nat.not_le.1 hdepth, vs, bind_eq_ok_iff.2 ⟨_, hvs, bind_eq_ok_iff.2 ⟨_, hclose, rfl⟩⟩, rfl⟩
    · rintro ⟨-, -, vs, hvs, rfl⟩
      obtain ⟨⟨vs, s₁⟩, hvs, he⟩ := bind_eq_ok_iff.1 hvs
      obtain ⟨s₂, hclose, he⟩ := bind_eq_ok_iff.1 he
      cases he
      exact bind_eq_ok_iff.2 ⟨_, hvs, bind_eq_ok_iff.2 ⟨_, hclose, rfl⟩⟩
  · exact ⟨fun he => (unexpected_ne_ok he).elim, fun he => (hhead he.1).elim⟩

theorem read_table_eq_ok_iff {expected : String} {depth : Nat} {s s' : Cursor} {v : Json} :
    (table expected shape).read depth s = .ok (v, s') ↔ s.skipBlanks.rest.head? = some '\x7b' ∧ 1 < depth ∧
      ∃ ms, Cursor.membersOf (shape.read (depth - 1)) s.skipBlanks = .ok (ms, s') ∧ v = ofPairs ms := by
  rw [read]
  generalize s.skipBlanks = s
  split_ifs with hhead hdepth
  · exact ⟨fun he => (Cursor.failNext_ne_ok he).elim, fun he => (Nat.not_lt.2 hdepth he.2.1).elim⟩
  · constructor
    · intro he
      obtain ⟨⟨ms, s₁⟩, hms, he⟩ := bind_eq_ok_iff.1 he
      obtain ⟨s₂, hclose, he⟩ := bind_eq_ok_iff.1 he
      cases he
      exact ⟨hhead, Nat.not_le.1 hdepth, ms, bind_eq_ok_iff.2 ⟨_, hms, bind_eq_ok_iff.2 ⟨_, hclose, rfl⟩⟩, rfl⟩
    · rintro ⟨-, -, ms, hms, rfl⟩
      obtain ⟨⟨ms, s₁⟩, hms, he⟩ := bind_eq_ok_iff.1 hms
      obtain ⟨s₂, hclose, he⟩ := bind_eq_ok_iff.1 he
      cases he
      exact bind_eq_ok_iff.2 ⟨_, hms, bind_eq_ok_iff.2 ⟨_, hclose, rfl⟩⟩
  · exact ⟨fun he => (unexpected_ne_ok he).elim, fun he => (hhead he.1).elim⟩

theorem Asks.lifts_list (h : shape.Asks P) (depth : Nat) :
    Cursor.Lifts (ListOf P) Json.merged ((list shape).read depth) (Cursor.spelled depth) := by
  intro s v s'
  rw [read_list_eq_ok_iff]
  constructor
  · rintro ⟨hhead, hdepth, vs, hvs, rfl⟩
    obtain ⟨depth, rfl⟩ := Nat.exists_eq_add_of_lt hdepth
    obtain ⟨ts, hts, hP, rfl⟩ := (Cursor.Lifts.listOf (h.lifts _)).1 hvs
    exact ⟨_, Cursor.spelled_eq_list_iff.2 ⟨hhead, by omega, hts⟩, ⟨ts, rfl, hP⟩, merged_list ts⟩
  · rintro ⟨_, ht, ⟨ts, rfl, hP⟩, rfl⟩
    cases depth with
    | zero => exact (Cursor.failNext_ne_ok ht).elim
    | succ depth =>
      obtain ⟨hhead, hdepth, hts⟩ := Cursor.spelled_eq_list_iff.1 ht
      exact ⟨hhead, by omega, _, (Cursor.Lifts.listOf (h.lifts _)).2 ⟨ts, hts, hP, rfl⟩, merged_list ts⟩

theorem Asks.lifts_table {expected : String} (h : shape.Asks P) (depth : Nat) :
    Cursor.Lifts (TableOf P) Json.merged ((table expected shape).read depth) (Cursor.spelled depth) := by
  intro s v s'
  rw [read_table_eq_ok_iff]
  constructor
  · rintro ⟨hhead, hdepth, ms, hms, rfl⟩
    obtain ⟨depth, rfl⟩ := Nat.exists_eq_add_of_lt hdepth
    obtain ⟨ts, hts, hP, rfl⟩ := (Cursor.Lifts.membersOf (h.lifts _)).1 hms
    exact ⟨_, Cursor.spelled_eq_object_iff.2 ⟨hhead, by omega, hts⟩, ⟨ts, rfl, hP⟩, by rw [merged_object, ofPairs_eq]⟩
  · rintro ⟨_, ht, ⟨ts, rfl, hP⟩, rfl⟩
    cases depth with
    | zero => exact (Cursor.failNext_ne_ok ht).elim
    | succ depth =>
      obtain ⟨hhead, hdepth, hts⟩ := Cursor.spelled_eq_object_iff.1 ht
      refine ⟨hhead, by omega, _, (Cursor.Lifts.membersOf (h.lifts _)).2 ⟨ts, hts, hP, rfl⟩, ?_⟩
      rw [merged_object, ofPairs_eq]

theorem Asks.list (h : shape.Asks P) : (list shape).Asks (ListOf P) :=
  ⟨h.conform_list, h.lifts_list⟩

theorem Asks.table {expected : String} (h : shape.Asks P) : (table expected shape).Asks (TableOf P) :=
  ⟨h.conform_table, h.lifts_table⟩

/-- A text holds a value of the form exactly if it spells one. -/
theorem Asks.parse_eq_ok_iff (h : shape.Asks P) {s : String} {v : Json} :
    shape.parse s = .ok v ↔ ∃ t, spelled s = .ok t ∧ P t ∧ t.merged = v :=
  whole_eq_ok_iff (h.lifts depthLimit)

/-! What is made of a value of the form. -/

variable {α : Type} {f : Json → α} {a : α}

theorem Asks.map_conform_eq_ok_iff (h : shape.Asks P) {v : Json} :
    (shape.conform v).map f = .ok a ↔ P v ∧ f v = a := by
  rw [map_eq_ok_iff]
  simp only [h.conform_eq_ok_iff]
  constructor
  · rintro ⟨_, ⟨hP, rfl⟩, ha⟩
    exact ⟨hP, ha⟩
  · rintro ⟨hP, ha⟩
    exact ⟨v, ⟨hP, rfl⟩, ha⟩

theorem Asks.map_parse_eq_ok_iff (h : shape.Asks P) {s : String} :
    (shape.parse s).map f = .ok a ↔ ∃ t, spelled s = .ok t ∧ P t ∧ f t.merged = a := by
  rw [map_eq_ok_iff]
  simp only [h.parse_eq_ok_iff]
  constructor
  · rintro ⟨_, ⟨t, ht, hP, rfl⟩, ha⟩
    exact ⟨t, ht, hP, ha⟩
  · rintro ⟨t, ht, hP, ha⟩
    exact ⟨_, ⟨t, ht, hP, rfl⟩, ha⟩

end Shape

end FieldRules.Json
