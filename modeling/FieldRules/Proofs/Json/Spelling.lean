/-
What a JSON text spells. `spelled` reads a text as `parse` does, but keeps the members of an object as they
are written, also those under a repeated key. `merged` leaves one member for each key, at the place of the
first one and with the content of the last one. Parsing is spelling and merging (`parse_eq_ok_iff`), and merging does
nothing to a value whose objects repeat no key (`merged_eq_self`).
-/
import FieldRules.Json.Shape
import FieldRules.Proofs.Entries.Insertion
import FieldRules.Proofs.Json.Path
import FieldRules.Proofs.Traversal

namespace FieldRules.Json

variable {α β : Type}

/-! ## Repeated keys -/

/-- No object in the value has two members under one key. -/
def Distinct (v : Json) : Prop :=
  ∀ path members, v.at? path = some (.object members) → (members.map Prod.fst).Nodup

theorem Distinct.step {v part : Json} {step : PathStep} (h : v.Distinct) (hstep : v.step? step = some part) :
    part.Distinct := by
  intro path members hpath
  refine h (step :: path) members ?_
  rw [at?_cons, hstep]
  exact hpath

theorem distinct_list_iff {items : List Json} : (list items).Distinct ↔ ∀ v ∈ items, v.Distinct := by
  constructor
  · intro h v hv
    obtain ⟨i, hi, rfl⟩ := List.getElem_of_mem hv
    exact h.step (step?_item hi)
  · intro h path members hpath
    match path with
    | [] => cases hpath
    | .item i :: path =>
      obtain ⟨part, hpart, hrest⟩ := Option.bind_eq_some_iff.1 hpath
      exact h part (List.mem_of_getElem? hpart) path members hrest
    | .member i key :: path => cases hpath

theorem distinct_object_iff {members : List (String × Json)} :
    (object members).Distinct ↔ (members.map Prod.fst).Nodup ∧ ∀ e ∈ members, e.2.Distinct := by
  constructor
  · intro h
    refine ⟨h [] members rfl, fun e he => ?_⟩
    obtain ⟨i, hi, rfl⟩ := List.getElem_of_mem he
    exact h.step (step?_member hi)
  · rintro ⟨hkeys, hparts⟩ path members' hpath
    match path with
    | [] => cases hpath; exact hkeys
    | .item i :: path => cases hpath
    | .member i key :: path =>
      obtain ⟨part, hpart, hrest⟩ := Option.bind_eq_some_iff.1 hpath
      obtain ⟨e, he, hkey⟩ := Option.bind_eq_some_iff.1 hpart
      split at hkey
      · cases hkey
        exact hparts e (List.mem_of_getElem? he) path members' hrest
      · cases hkey

/-! ## Merging -/

mutual

/-- The value with one member for each key of an object, at every depth. -/
def merged : Json → Json
  | list items => list (mergedItems items)
  | object members => ofPairs (mergedMembers members)
  | v => v

def mergedItems : List Json → List Json
  | [] => []
  | v :: rest => merged v :: mergedItems rest

def mergedMembers : List (String × Json) → List (String × Json)
  | [] => []
  | (key, v) :: rest => (key, merged v) :: mergedMembers rest

end

theorem mergedItems_eq_map (items : List Json) : mergedItems items = items.map merged := by
  induction items with
  | nil => rfl
  | cons v rest ih => rw [mergedItems, ih, List.map_cons]

theorem mergedMembers_eq_map (members : List (String × Json)) :
    mergedMembers members = members.map fun e => (e.1, e.2.merged) := by
  induction members with
  | nil => rfl
  | cons e rest ih => rw [mergedMembers, ih, List.map_cons]

theorem merged_list (items : List Json) : (list items).merged = list (items.map merged) := by
  rw [merged, mergedItems_eq_map]

theorem merged_object (members : List (String × Json)) :
    (object members).merged = object (Entries.ofList (members.map fun e => (e.1, e.2.merged))).toList := by
  rw [merged, mergedMembers_eq_map, ofPairs_eq]

theorem merged_eq_self {v : Json} (h : v.Distinct) : v.merged = v := by
  induction v using parts_induction with
  | null | bool | number | text => rw [merged] <;> simp
  | list items ih =>
    rw [merged_list, List.map_congr_left fun v hv => ih v hv (distinct_list_iff.1 h v hv), List.map_id']
  | object members ih =>
    obtain ⟨hkeys, hparts⟩ := distinct_object_iff.1 h
    have hmembers : members.map (fun e => (e.1, e.2.merged)) = members := by
      refine (List.map_congr_left fun e he => ?_).trans (List.map_id' members)
      rw [ih e he (hparts e he)]
    rw [merged_object, hmembers, Entries.toList_ofList hkeys]

/-! ## Lists and objects in a text -/

namespace Cursor

theorem fail_ne_ok {s : Cursor} {cause : Flaw} {a : α} : s.fail cause ≠ .ok a := by
  rintro ⟨⟩

theorem failNext_ne_ok {s : Cursor} {cause : Flaw} {a : α} : s.failNext cause ≠ .ok a := by
  rintro ⟨⟩

/-- The items of the list that begins here. -/
def listOf (item : Cursor → Except Fault (α × Cursor)) (s : Cursor) : Except Fault (List α × Cursor) := do
  let (vs, s) ← items item s.rest.length true (s.drop 1)
  .ok (vs, ← s.closeList)

/-- The members of the object that begins here. -/
def membersOf (content : Cursor → Except Fault (α × Cursor)) (s : Cursor) :
    Except Fault (List (String × α) × Cursor) := do
  let (ms, s) ← members (fun _ _ s => do content (← s.colon)) s.rest.length [] (s.drop 1)
  .ok (ms, ← s.closeObject)

/-- A reader that reads what another one reads, if the result has the property, and changes the result. -/
def Lifts (P : α → Prop) (f : α → β) (read' : Cursor → Except Fault (β × Cursor))
    (read : Cursor → Except Fault (α × Cursor)) : Prop :=
  ∀ {s b s'}, read' s = .ok (b, s') ↔ ∃ a, read s = .ok (a, s') ∧ P a ∧ f a = b

theorem items_succ_eq_ok_iff {item : Cursor → Except Fault (α × Cursor)} {fuel : Nat} {first : Bool} {s s' : Cursor}
    {vs : List α} : items item (fuel + 1) first s = .ok (vs, s') ↔
      (s.nextItem first = .ok (none, s') ∧ vs = []) ∨
      ∃ start s₀ a s₁ rest, s.nextItem first = .ok (some start, s₀) ∧ item start = .ok (a, s₁) ∧
        items item fuel false s₁ = .ok (rest, s') ∧ vs = a :: rest := by
  rw [items, bind_eq_ok_iff]
  constructor
  · rintro ⟨⟨_ | start, s₀⟩, hnext, h⟩
    · cases h
      exact Or.inl ⟨hnext, rfl⟩
    · obtain ⟨⟨a, s₁⟩, ha, h⟩ := bind_eq_ok_iff.1 h
      obtain ⟨⟨rest, s₂⟩, hrest, h⟩ := bind_eq_ok_iff.1 h
      cases h
      exact Or.inr ⟨start, s₀, a, s₁, rest, hnext, ha, hrest, rfl⟩
  · rintro (⟨hnext, rfl⟩ | ⟨start, s₀, a, s₁, rest, hnext, ha, hrest, rfl⟩)
    · exact ⟨_, hnext, rfl⟩
    · exact ⟨_, hnext, bind_eq_ok_iff.2 ⟨_, ha, bind_eq_ok_iff.2 ⟨_, hrest, rfl⟩⟩⟩

theorem members_succ_eq_ok_iff {content : Cursor → Except Fault (α × Cursor)} {fuel : Nat} {seen : List String}
    {s s' : Cursor} {ms : List (String × α)} :
    members (fun _ _ s => do content (← s.colon)) (fuel + 1) seen s = .ok (ms, s') ↔
      (s.nextKey seen.isEmpty = .ok (none, s') ∧ ms = []) ∨
      ∃ start s₀ key s₁ s₂ a s₃ rest, s.nextKey seen.isEmpty = .ok (some start, s₀) ∧
        start.text = .ok (key, s₁) ∧ s₁.colon = .ok s₂ ∧ content s₂ = .ok (a, s₃) ∧
        members (fun _ _ s => do content (← s.colon)) fuel (key :: seen) s₃ = .ok (rest, s') ∧
        ms = (key, a) :: rest := by
  rw [members, bind_eq_ok_iff]
  constructor
  · rintro ⟨⟨_ | start, s₀⟩, hnext, h⟩
    · cases h
      exact Or.inl ⟨hnext, rfl⟩
    · obtain ⟨⟨key, s₁⟩, hkey, h⟩ := bind_eq_ok_iff.1 h
      obtain ⟨⟨a, s₃⟩, ha, h⟩ := bind_eq_ok_iff.1 h
      obtain ⟨s₂, hcolon, ha⟩ := bind_eq_ok_iff.1 ha
      obtain ⟨⟨rest, s₄⟩, hrest, h⟩ := bind_eq_ok_iff.1 h
      cases h
      exact Or.inr ⟨start, s₀, key, s₁, s₂, a, s₃, rest, hnext, hkey, hcolon, ha, hrest, rfl⟩
  · rintro (⟨hnext, rfl⟩ | ⟨start, s₀, key, s₁, s₂, a, s₃, rest, hnext, hkey, hcolon, ha, hrest, rfl⟩)
    · exact ⟨_, hnext, rfl⟩
    · exact ⟨_, hnext, bind_eq_ok_iff.2 ⟨_, hkey, bind_eq_ok_iff.2 ⟨_, bind_eq_ok_iff.2 ⟨_, hcolon, ha⟩,
        bind_eq_ok_iff.2 ⟨_, hrest, rfl⟩⟩⟩⟩

section
variable {P : α → Prop} {f : α → β} {read' : Cursor → Except Fault (β × Cursor)}
  {read : Cursor → Except Fault (α × Cursor)}

theorem Lifts.items (h : Lifts P f read' read) (fuel : Nat) (first : Bool) :
    Lifts (fun vs => ∀ a ∈ vs, P a) (List.map f) (items read' fuel first) (items read fuel first) := by
  induction fuel generalizing first with
  | zero =>
    intro s vs s'
    exact ⟨fun he => (fail_ne_ok he).elim, fun ⟨_, he, _⟩ => (fail_ne_ok he).elim⟩
  | succ fuel ih =>
    intro s vs s'
    simp only [items_succ_eq_ok_iff]
    constructor
    · rintro (⟨hnext, rfl⟩ | ⟨start, s₀, b, s₁, rest, hnext, hb, hrest, rfl⟩)
      · exact ⟨[], Or.inl ⟨hnext, rfl⟩, List.forall_mem_nil _, rfl⟩
      · obtain ⟨a, ha, hP, rfl⟩ := h.1 hb
        obtain ⟨as, has, hPs, rfl⟩ := (ih false).1 hrest
        exact ⟨a :: as, Or.inr ⟨start, s₀, a, s₁, as, hnext, ha, has, rfl⟩, List.forall_mem_cons.2 ⟨hP, hPs⟩, rfl⟩
    · rintro ⟨as, ⟨hnext, rfl⟩ | ⟨start, s₀, a, s₁, rest, hnext, ha, hrest, rfl⟩, hPs, rfl⟩
      · exact Or.inl ⟨hnext, rfl⟩
      · rw [List.forall_mem_cons] at hPs
        exact Or.inr ⟨start, s₀, f a, s₁, rest.map f, hnext, h.2 ⟨a, ha, hPs.1, rfl⟩,
          (ih false).2 ⟨rest, hrest, hPs.2, rfl⟩, rfl⟩

theorem Lifts.members (h : Lifts P f read' read) (fuel : Nat) (seen : List String) :
    Lifts (fun ms => ∀ e ∈ ms, P e.2) (List.map fun e => (e.1, f e.2))
      (members (fun _ _ s => do read' (← s.colon)) fuel seen)
      (members (fun _ _ s => do read (← s.colon)) fuel seen) := by
  induction fuel generalizing seen with
  | zero =>
    intro s ms s'
    exact ⟨fun he => (fail_ne_ok he).elim, fun ⟨_, he, _⟩ => (fail_ne_ok he).elim⟩
  | succ fuel ih =>
    intro s ms s'
    simp only [members_succ_eq_ok_iff]
    constructor
    · rintro (⟨hnext, rfl⟩ | ⟨start, s₀, key, s₁, s₂, b, s₃, rest, hnext, hkey, hcolon, hb, hrest, rfl⟩)
      · exact ⟨[], Or.inl ⟨hnext, rfl⟩, List.forall_mem_nil _, rfl⟩
      · obtain ⟨a, ha, hP, rfl⟩ := h.1 hb
        obtain ⟨as, has, hPs, rfl⟩ := (ih _).1 hrest
        exact ⟨(key, a) :: as, Or.inr ⟨start, s₀, key, s₁, s₂, a, s₃, as, hnext, hkey, hcolon, ha, has, rfl⟩,
          List.forall_mem_cons.2 ⟨hP, hPs⟩, rfl⟩
    · rintro ⟨as, ⟨hnext, rfl⟩ | ⟨start, s₀, key, s₁, s₂, a, s₃, rest, hnext, hkey, hcolon, ha, hrest, rfl⟩, hPs, rfl⟩
      · exact Or.inl ⟨hnext, rfl⟩
      · rw [List.forall_mem_cons] at hPs
        exact Or.inr ⟨start, s₀, key, s₁, s₂, f a, s₃, _, hnext, hkey, hcolon, h.2 ⟨a, ha, hPs.1, rfl⟩,
          (ih _).2 ⟨rest, hrest, hPs.2, rfl⟩, rfl⟩

/-- What holds of the two parts of a reader that closes what it opened. -/
theorem Lifts.closed {close : Cursor → Except Fault Cursor} (h : Lifts P f read' read) :
    Lifts P f (fun s => read' s >>= fun r => close r.2 >>= fun s => .ok (r.1, s))
      (fun s => read s >>= fun r => close r.2 >>= fun s => .ok (r.1, s)) := by
  intro s b s'
  constructor
  · intro he
    obtain ⟨⟨b, s₁⟩, hb, he⟩ := bind_eq_ok_iff.1 he
    obtain ⟨s₂, hclose, he⟩ := bind_eq_ok_iff.1 he
    cases he
    obtain ⟨a, ha, hP, rfl⟩ := h.1 hb
    exact ⟨a, bind_eq_ok_iff.2 ⟨_, ha, bind_eq_ok_iff.2 ⟨_, hclose, rfl⟩⟩, hP, rfl⟩
  · rintro ⟨a, he, hP, rfl⟩
    obtain ⟨⟨a, s₁⟩, ha, he⟩ := bind_eq_ok_iff.1 he
    obtain ⟨s₂, hclose, he⟩ := bind_eq_ok_iff.1 he
    cases he
    exact bind_eq_ok_iff.2 ⟨_, h.2 ⟨a, ha, hP, rfl⟩, bind_eq_ok_iff.2 ⟨_, hclose, rfl⟩⟩

theorem Lifts.listOf (h : Lifts P f read' read) :
    Lifts (fun vs => ∀ a ∈ vs, P a) (List.map f) (listOf read') (listOf read) :=
  fun {s} => Lifts.closed (h.items s.rest.length true) (s := s.drop 1)

theorem Lifts.membersOf (h : Lifts P f read' read) :
    Lifts (fun ms => ∀ e ∈ ms, P e.2) (List.map fun e => (e.1, f e.2)) (membersOf read') (membersOf read) :=
  fun {s} => Lifts.closed (h.members s.rest.length []) (s := s.drop 1)

end

/-! ## Spelling -/

/-- Reads a value and makes an object of its members, as they are written, by `object`. -/
def valueWith (object : List (String × Json) → Json) : Nat → Cursor → Except Fault (Json × Cursor)
  | 0, s => s.skipBlanks.failNext .tooDeep
  | depth + 1, s =>
    let s := s.skipBlanks
    match s.scalar? with
    | some result => result
    | none =>
      match s.rest with
      | [] => s.fail .endInValue
      | c :: _ =>
        if c = '[' then
          if depth = 0 then s.failNext .tooDeep
          else do
            let (vs, s) ← listOf (valueWith object depth) s
            .ok (.list vs, s)
        else if c = '\x7b' then
          if depth = 0 then s.failNext .tooDeep
          else do
            let (ms, s) ← membersOf (valueWith object depth) s
            .ok (object ms, s)
        else s.failNext .expectedValue

/-- Reads a value and keeps the members of an object as they are written. -/
def spelled : Nat → Cursor → Except Fault (Json × Cursor) :=
  valueWith .object

theorem value_eq_valueWith (depth : Nat) : value depth = valueWith ofPairs depth := by
  induction depth with
  | zero => rfl
  | succ depth ih =>
    funext s
    rw [value, valueWith, ih]
    simp only [listOf, membersOf, bind_assoc]
    rfl

/-- A value without parts, as `scalar?` reads it. -/
theorem of_scalar? {s s' : Cursor} {v : Json} (h : s.scalar? = some (.ok (v, s'))) :
    (∀ vs, v ≠ .list vs) ∧ (∀ ms, v ≠ .object ms) ∧ v.merged = v := by
  -- every branch gives back what one constructor makes of what was read
  have hmap : ∀ {γ : Type} (x : Except Fault γ) (g : γ → Json × Cursor), x.map g = .ok (v, s') →
      (∀ c, (∀ vs, (g c).1 ≠ .list vs) ∧ (∀ ms, (g c).1 ≠ .object ms) ∧ (g c).1.merged = (g c).1) →
      (∀ vs, v ≠ .list vs) ∧ (∀ ms, v ≠ .object ms) ∧ v.merged = v := by
    intro γ x g hx hg
    obtain ⟨c, -, hc⟩ := map_eq_ok_iff.1 hx
    have hv : (g c).1 = v := congrArg Prod.fst hc
    exact hv ▸ hg c
  unfold scalar? at h
  cases hrest : s.rest with
  | nil => rw [hrest] at h; cases h
  | cons c rest =>
    simp only [hrest] at h
    split_ifs at h <;>
      exact hmap _ _ (Option.some.inj h) fun _ => ⟨fun _ => Json.noConfusion, fun _ => Json.noConfusion, rfl⟩

theorem scalar?_eq_none {s : Cursor} {c : Char} (hc : c = '[' ∨ c = '\x7b') (h : s.rest.head? = some c) :
    s.scalar? = none := by
  obtain ⟨rest, hrest⟩ := List.head?_eq_some_iff.1 h
  unfold scalar?
  rw [hrest]
  rcases hc with rfl | rfl <;> rfl

/-- A value is one without parts, a list or an object. -/
theorem valueWith_succ_eq_ok_iff {object : List (String × Json) → Json} {depth : Nat} {s s' : Cursor} {v : Json} :
    valueWith object (depth + 1) s = .ok (v, s') ↔
      s.skipBlanks.scalar? = some (.ok (v, s')) ∨
      (s.skipBlanks.rest.head? = some '[' ∧ depth ≠ 0 ∧
        ∃ vs, listOf (valueWith object depth) s.skipBlanks = .ok (vs, s') ∧ v = .list vs) ∨
      (s.skipBlanks.rest.head? = some '\x7b' ∧ depth ≠ 0 ∧
        ∃ ms, membersOf (valueWith object depth) s.skipBlanks = .ok (ms, s') ∧ v = object ms) := by
  rw [valueWith]
  generalize s.skipBlanks = s
  constructor
  · intro h
    cases hscalar : s.scalar? with
    | some result =>
      rw [hscalar] at h
      exact Or.inl (congrArg some h)
    | none =>
      refine Or.inr ?_
      simp only [hscalar] at h
      split at h
      · exact (fail_ne_ok h).elim
      · next c rest hrest =>
        rw [hrest, List.head?_cons]
        split_ifs at h with hlist hdepth hobject hdepth
        · exact (failNext_ne_ok h).elim
        · obtain ⟨⟨vs, s₁⟩, hvs, h⟩ := bind_eq_ok_iff.1 h
          cases h
          exact Or.inl ⟨congrArg some hlist, hdepth, vs, hvs, rfl⟩
        · exact (failNext_ne_ok h).elim
        · obtain ⟨⟨ms, s₁⟩, hms, h⟩ := bind_eq_ok_iff.1 h
          cases h
          exact Or.inr ⟨congrArg some hobject, hdepth, ms, hms, rfl⟩
        · exact (failNext_ne_ok h).elim
  · rintro (h | ⟨hhead, hdepth, vs, hvs, rfl⟩ | ⟨hhead, hdepth, ms, hms, rfl⟩)
    · rw [h]
    · rw [scalar?_eq_none (Or.inl rfl) hhead]
      obtain ⟨rest, hrest⟩ := List.head?_eq_some_iff.1 hhead
      simp only [hrest, if_pos, if_neg hdepth]
      exact bind_eq_ok_iff.2 ⟨_, hvs, rfl⟩
    · rw [scalar?_eq_none (Or.inr rfl) hhead]
      obtain ⟨rest, hrest⟩ := List.head?_eq_some_iff.1 hhead
      simp only [hrest, if_pos, if_neg hdepth]
      exact bind_eq_ok_iff.2 ⟨_, hms, rfl⟩

theorem spelled_eq_list_iff {depth : Nat} {s s' : Cursor} {ts : List Json} :
    spelled (depth + 1) s = .ok (.list ts, s') ↔
      s.skipBlanks.rest.head? = some '[' ∧ depth ≠ 0 ∧ listOf (spelled depth) s.skipBlanks = .ok (ts, s') := by
  rw [spelled, valueWith_succ_eq_ok_iff]
  constructor
  · rintro (h | ⟨hhead, hdepth, vs, hvs, he⟩ | ⟨-, -, ms, -, he⟩)
    · exact ((of_scalar? h).1 ts rfl).elim
    · cases he
      exact ⟨hhead, hdepth, hvs⟩
    · cases he
  · rintro ⟨hhead, hdepth, hvs⟩
    exact Or.inr (Or.inl ⟨hhead, hdepth, ts, hvs, rfl⟩)

theorem spelled_eq_object_iff {depth : Nat} {s s' : Cursor} {ms : List (String × Json)} :
    spelled (depth + 1) s = .ok (.object ms, s') ↔
      s.skipBlanks.rest.head? = some '\x7b' ∧ depth ≠ 0 ∧ membersOf (spelled depth) s.skipBlanks = .ok (ms, s') := by
  rw [spelled, valueWith_succ_eq_ok_iff]
  constructor
  · rintro (h | ⟨-, -, vs, -, he⟩ | ⟨hhead, hdepth, ms', hms, he⟩)
    · exact ((of_scalar? h).2.1 ms rfl).elim
    · cases he
    · cases he
      exact ⟨hhead, hdepth, hms⟩
  · rintro ⟨hhead, hdepth, hms⟩
    exact Or.inr (Or.inr ⟨hhead, hdepth, ms, hms, rfl⟩)

/-- A value is what is spelled, merged. -/
theorem lifts_value (depth : Nat) : Lifts (fun _ => True) merged (value depth) (spelled depth) := by
  rw [value_eq_valueWith]
  induction depth with
  | zero =>
    intro s v s'
    exact ⟨fun he => (failNext_ne_ok he).elim, fun ⟨_, he, _⟩ => (failNext_ne_ok he).elim⟩
  | succ depth ih =>
    intro s v s'
    rw [valueWith_succ_eq_ok_iff]
    constructor
    · rintro (h | ⟨hhead, hdepth, vs, hvs, rfl⟩ | ⟨hhead, hdepth, ms, hms, rfl⟩)
      · exact ⟨v, valueWith_succ_eq_ok_iff.2 (Or.inl h), trivial, (of_scalar? h).2.2⟩
      · obtain ⟨ts, hts, -, rfl⟩ := ih.listOf.1 hvs
        exact ⟨.list ts, spelled_eq_list_iff.2 ⟨hhead, hdepth, hts⟩, trivial, merged_list ts⟩
      · obtain ⟨ts, hts, -, rfl⟩ := ih.membersOf.1 hms
        exact ⟨.object ts, spelled_eq_object_iff.2 ⟨hhead, hdepth, hts⟩, trivial, by rw [merged_object, ofPairs_eq]⟩
    · rintro ⟨t, ht, -, rfl⟩
      rcases valueWith_succ_eq_ok_iff.1 ht with h | ⟨hhead, hdepth, ts, hts, rfl⟩ | ⟨hhead, hdepth, ts, hts, rfl⟩
      · rw [(of_scalar? h).2.2]
        exact Or.inl h
      · exact Or.inr (Or.inl ⟨hhead, hdepth, _, ih.listOf.2 ⟨ts, hts, fun _ _ => trivial, rfl⟩, merged_list ts⟩)
      · refine Or.inr (Or.inr ⟨hhead, hdepth, _, ih.membersOf.2 ⟨ts, hts, fun _ _ => trivial, rfl⟩, ?_⟩)
        rw [merged_object, ofPairs_eq]

end Cursor

/-- The value that a text spells, with the members of its objects as they are written. -/
def spelled (s : String) : Except Fault Json := do
  let (v, s) ← (Cursor.start s).spelled depthLimit
  s.finish
  .ok v

theorem spelled_eq_ok_iff {s : String} {t : Json} :
    spelled s = .ok t ↔ ∃ s', (Cursor.start s).spelled depthLimit = .ok (t, s') ∧ s'.finish = .ok () := by
  unfold spelled
  constructor
  · intro h
    obtain ⟨⟨t, s'⟩, ht, h⟩ := bind_eq_ok_iff.1 h
    obtain ⟨⟨⟩, hfinish, h⟩ := bind_eq_ok_iff.1 h
    cases h
    exact ⟨s', ht, hfinish⟩
  · rintro ⟨s', ht, hfinish⟩
    exact bind_eq_ok_iff.2 ⟨_, ht, bind_eq_ok_iff.2 ⟨_, hfinish, rfl⟩⟩

/-- A reader of whole texts accepts those that spell a value with its property. -/
theorem whole_eq_ok_iff {P : Json → Prop} {read : Cursor → Except Fault (Json × Cursor)}
    (h : Cursor.Lifts P merged read (Cursor.spelled depthLimit)) {s : String} {v : Json} :
    (do let (v, s) ← read (.start s); s.finish; .ok v) = .ok v ↔ ∃ t, spelled s = .ok t ∧ P t ∧ t.merged = v := by
  constructor
  · intro he
    obtain ⟨⟨v, s'⟩, hv, he⟩ := bind_eq_ok_iff.1 he
    obtain ⟨⟨⟩, hfinish, he⟩ := bind_eq_ok_iff.1 he
    cases he
    obtain ⟨t, ht, hP, rfl⟩ := h.1 hv
    exact ⟨t, spelled_eq_ok_iff.2 ⟨s', ht, hfinish⟩, hP, rfl⟩
  · rintro ⟨t, ht, hP, rfl⟩
    obtain ⟨s', ht, hfinish⟩ := spelled_eq_ok_iff.1 ht
    exact bind_eq_ok_iff.2 ⟨_, h.2 ⟨t, ht, hP, rfl⟩, bind_eq_ok_iff.2 ⟨_, hfinish, rfl⟩⟩

/-- Parsing is spelling and merging. -/
theorem parse_eq_ok_iff {s : String} {v : Json} : parse s = .ok v ↔ ∃ t, spelled s = .ok t ∧ t.merged = v := by
  refine (whole_eq_ok_iff (Cursor.lifts_value depthLimit)).trans ?_
  simp only [true_and]

end FieldRules.Json
