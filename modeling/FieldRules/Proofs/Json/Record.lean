/-
Texts read as records. A reader of a known shape goes over the same characters as the reader of values, so what it
gives is said of the value that is spelled there: `Follows read v w`. A record takes the contents of its fields, each
at most once, and passes over the other members (`follows_record`), unless it is strict: then it fails at the first
member that is no field (`readRecord_unknown`).
-/
import FieldRules.Proofs.Json.Skip

namespace FieldRules.Json

open Cursor

variable {s s' : Cursor} {d : Nat} {v w : Json}

/-- Wherever the text spells `v`, the reader gives `w` and ends at the same place. -/
def Follows (read : Cursor → Except Fault (Json × Cursor)) (v w : Json) : Prop :=
  ∀ ⦃d s s'⦄, s.spelled d = .ok (v, s') → read s = .ok (w, s')

/-! ## Values without parts -/

theorem spelled_skipBlanks (d : Nat) (s : Cursor) : s.skipBlanks.spelled d = s.spelled d := by
  cases d with
  | zero => rw [Cursor.spelled, valueWith, valueWith, skipBlanks_skipBlanks]
  | succ d => rw [Cursor.spelled, valueWith, valueWith, skipBlanks_skipBlanks]

/-- A reader that passes over blanks first. -/
theorem Follows.blanks {read : Cursor → Except Fault (Json × Cursor)} (h : Follows read v w) :
    Follows (fun s => read s.skipBlanks) v w :=
  fun _ _ _ hs => h ((spelled_skipBlanks _ _).trans hs)

theorem scalar?_of_spelled (hlist : ∀ vs, v ≠ .list vs) (hobject : ∀ ms, v ≠ .object ms)
    (h : s.spelled d = .ok (v, s')) : s.skipBlanks.scalar? = some (.ok (v, s')) := by
  cases d with
  | zero => exact (failNext_ne_ok h).elim
  | succ d =>
    rcases valueWith_succ_eq_ok_iff.1 h with hscalar | ⟨-, -, vs, -, he⟩ | ⟨-, -, ms, -, he⟩
    · exact hscalar
    · exact (hlist vs he).elim
    · exact (hobject ms he).elim

theorem scalar?_eq_null (h : s.scalar? = some (.ok (.null, s'))) :
    s.rest.head? = some 'n' ∧ word ['u', 'l', 'l'] (s.drop 1) = .ok s' := by
  unfold scalar? at h
  cases hrest : s.rest with
  | nil => rw [hrest] at h; cases h
  | cons c rest =>
    simp only [hrest] at h
    split_ifs at h with hn
    · obtain ⟨s₁, hword, he⟩ := map_eq_ok_iff.1 (Option.some.inj h)
      cases he
      exact ⟨congrArg some hn, hword⟩
    all_goals
      obtain ⟨x, -, he⟩ := map_eq_ok_iff.1 (Option.some.inj h)
      cases he

theorem scalar?_eq_text {t : String} (h : s.scalar? = some (.ok (.text t, s'))) :
    s.rest.head? = some '"' ∧ (s.drop 1).text = .ok (t, s') := by
  unfold scalar? at h
  cases hrest : s.rest with
  | nil => rw [hrest] at h; cases h
  | cons c rest =>
    simp only [hrest] at h
    split_ifs at h with hn ht hf hminus hdigit hquote
    all_goals
      obtain ⟨x, hx, he⟩ := map_eq_ok_iff.1 (Option.some.inj h)
      cases he
    exact ⟨congrArg some hquote, hx⟩

namespace Shape

theorem follows_readScalar {shape : Shape} {fits : Json → Bool} (hfits : fits v = true) (hlist : ∀ vs, v ≠ .list vs)
    (hobject : ∀ ms, v ≠ .object ms) : Follows (readScalar shape fits) v v := by
  intro d s s' h
  simp only [readScalar, scalar?_of_spelled hlist hobject h, if_pos hfits]

theorem follows_flag (b : Bool) (depth : Nat) : Follows (read flag depth) (.bool b) (.bool b) := by
  intro d s s' h
  rw [read]
  exact follows_readScalar (v := .bool b) rfl nofun nofun h

theorem follows_text (t : String) (depth : Nat) : Follows (read text depth) (.text t) (.text t) := by
  intro d s s' h
  rw [read]
  exact follows_readScalar (v := .text t) rfl nofun nofun h

theorem follows_count (n : Fin (twoPow 64)) (depth : Nat) :
    Follows (read count depth) (.number (.natural n)) (.number (.natural n)) := by
  intro d s s' h
  rw [read]
  exact follows_readScalar (v := .number (.natural n)) rfl nofun nofun h

theorem follows_choice {names : List String} {t : String} (ht : t ∈ names) (depth : Nat) :
    Follows (read (choice names) depth) (.text t) (.text t) := by
  intro d s s' h
  obtain ⟨hhead, htext⟩ := scalar?_eq_text (scalar?_of_spelled nofun nofun h)
  obtain ⟨rest, hrest⟩ := List.head?_eq_some_iff.1 hhead
  have hchosen : chosen names t = .ok (.text t) := if_pos (List.contains_iff_mem.2 ht)
  rw [read, readChoice]
  simp only [hrest, if_true, readName, skipBlanks_skipBlanks, List.head?_cons, htext, bind, Except.bind, hchosen]

theorem follows_null (inner : Shape) (depth : Nat) : Follows (read (optional inner) depth) .null .null := by
  intro d s s' h
  obtain ⟨hhead, hword⟩ := scalar?_eq_null (scalar?_of_spelled nofun nofun h)
  rw [read]
  simp only [hhead, if_true, hword]
  rfl

theorem follows_optional_text {inner : Shape} {t : String} {depth : Nat}
    (h : Follows (read inner depth) (.text t) w) : Follows (read (optional inner) depth) (.text t) w := by
  intro d s s' hs
  obtain ⟨hhead, -⟩ := scalar?_eq_text (scalar?_of_spelled nofun nofun hs)
  rw [read]
  simp only [hhead]
  exact h.blanks hs

theorem follows_ofOption_text (t : Option String) (depth : Nat) :
    Follows (read (optional text) depth) (ofOption .text t) (ofOption .text t) := by
  cases t with
  | none => exact follows_null text depth
  | some t => exact follows_optional_text (follows_text t depth)

/-! ## Records -/

/-- The members of an object behind those with the keys `seen`, and what is found in the fields with the names: each
field at most once, the contents related as `R` says, and nothing of the other members, which a strict record does not
have. -/
inductive Found (R : String → Json → Json → Prop) (names : List String) (strict : Bool) :
    List String → List (String × Json) → List (String × Json) → Prop
  | nil {seen : List String} : Found R names strict seen [] []
  | field {seen : List String} {key : String} {v w : Json} {ms found : List (String × Json)} :
      key ∈ names → key ∉ seen → R key v w → Found R names strict (key :: seen) ms found →
      Found R names strict seen ((key, v) :: ms) ((key, w) :: found)
  | other {seen : List String} {key : String} {v : Json} {ms found : List (String × Json)} :
      key ∉ names → strict = false → Found R names strict (key :: seen) ms found →
      Found R names strict seen ((key, v) :: ms) found

variable {R : String → Json → Json → Prop} {readers : Readers} {strict : Bool} {seen : List String}
  {ms found : List (String × Json)}

/-- What is found under the name of a field is related to what stands under it. -/
theorem Found.lookup {names : List String} (h : Found R names strict seen ms found) {key : String}
    (hkey : key ∈ names) : Entries.lookup key ms = none ∧ Entries.lookup key found = none ∨
      ∃ v w, Entries.lookup key ms = some v ∧ Entries.lookup key found = some w ∧ R key v w := by
  induction h with
  | nil => exact Or.inl ⟨rfl, rfl⟩
  | @field seen key' v w ms found _ _ hR _ ih =>
    by_cases he : key' = key
    · subst he
      exact Or.inr ⟨v, w, if_pos rfl, if_pos rfl, hR⟩
    · simp only [Entries.lookup, if_neg he]
      exact ih
  | @other seen key' v ms found hother _ _ ih =>
    have he : key' ≠ key := fun he => hother (he ▸ hkey)
    simp only [Entries.lookup, if_neg he]
    exact ih

/-- Fields are found in an object that has each of them at most once. -/
theorem exists_found {names : List String} (hR : ∀ e ∈ ms, e.1 ∈ names → ∃ w, R e.1 e.2 w)
    (hother : strict = true → ∀ e ∈ ms, e.1 ∈ names) (honce : ((ms.filter (·.1 ∈ names)).map Prod.fst).Nodup)
    (hseen : ∀ e ∈ ms, e.1 ∈ names → e.1 ∉ seen) : ∃ found, Found R names strict seen ms found := by
  induction ms generalizing seen with
  | nil => exact ⟨[], .nil⟩
  | cons e ms ih =>
    obtain ⟨key, v⟩ := e
    rw [List.forall_mem_cons] at hR hseen
    have hrest : strict = true → ∀ e ∈ ms, e.1 ∈ names := fun hs => (List.forall_mem_cons.1 (hother hs)).2
    by_cases hkey : key ∈ names
    · obtain ⟨w, hw⟩ := hR.1 hkey
      rw [List.filter_cons_of_pos (by simpa using hkey), List.map_cons, List.nodup_cons] at honce
      have hfree : ∀ e ∈ ms, e.1 ∈ names → e.1 ∉ key :: seen := by
        intro e he hname hmem
        rcases List.mem_cons.1 hmem with rfl | hmem
        -- the same field further on would stand twice among the fields
        · exact honce.1 (List.mem_map.2 ⟨e, List.mem_filter.2 ⟨he, decide_eq_true hname⟩, rfl⟩)
        · exact hseen.2 e he hname hmem
      obtain ⟨found, hfound⟩ := ih hR.2 hrest honce.2 hfree
      exact ⟨_, .field hkey (hseen.1 hkey) hw hfound⟩
    · rw [List.filter_cons_of_neg (by simpa using hkey)] at honce
      have hfree : ∀ e ∈ ms, e.1 ∈ names → e.1 ∉ key :: seen := by
        intro e he hname hmem
        rcases List.mem_cons.1 hmem with rfl | hmem
        · exact hkey hname
        · exact hseen.2 e he hname hmem
      obtain ⟨found, hfound⟩ := ih hR.2 hrest honce hfree
      refine ⟨found, .other hkey ?_ hfound⟩
      cases strict with
      | false => rfl
      | true => exact (hkey (hother rfl _ List.mem_cons_self)).elim

/-- The readers of the fields read contents as the relation says. -/
def ReadersFollow (R : String → Json → Json → Prop) (readers : Readers) : Prop :=
  ∀ key read, (key, read) ∈ readers → ∀ v w, R key v w → Follows read v w

theorem readField_field {key : String} {s₁ s₂ s₃ : Cursor} (hreaders : ReadersFollow R readers)
    (hkey : key ∈ readers.map Prod.fst) (hseen : key ∉ seen) (hR : R key v w) (hcolon : s₁.colon = .ok s₂)
    (h : s₂.spelled d = .ok (v, s₃)) : readField strict readers seen key s₁ = .ok (some w, s₃) := by
  unfold readField
  cases hlookup : Entries.lookup key readers with
  | none => exact (Entries.lookup_eq_none_iff.1 hlookup hkey).elim
  | some read =>
    have hread := hreaders key read (Entries.mem_of_lookup hlookup) v w hR h
    have hcontains : seen.contains key = false := by simpa using hseen
    simp only [hcontains, Bool.false_eq_true, if_false, hcolon, hread, bind, Except.bind]

theorem readField_other {key : String} {s₁ s₂ s₃ : Cursor} (hkey : key ∉ readers.map Prod.fst)
    (hcolon : s₁.colon = .ok s₂) (h : s₂.spelled d = .ok (v, s₃)) :
    readField false readers seen key s₁ = .ok (none, s₃) := by
  unfold readField
  rw [Entries.lookup_eq_none_iff.2 hkey]
  simp only [Bool.false_eq_true, if_false, hcolon, skipValue_of_spelled h, bind, Except.bind]

/-- The fields that are found among the members that a record reads. -/
def fieldsOf (members : List (String × Option Json)) : List (String × Json) :=
  members.filterMap fun (k, v) => v.map fun v => (k, v)

theorem members_of_spelled (h : s.spelled d = .ok (.object ms, s')) : s.skipBlanks.rest.head? = some '\x7b' ∧
    ∃ d s₁, members (fun _ _ s => do Cursor.spelled d (← s.colon)) s.skipBlanks.rest.length [] (s.skipBlanks.drop 1) =
      .ok (ms, s₁) ∧ s₁.closeObject = .ok s' := by
  cases d with
  | zero => exact (failNext_ne_ok h).elim
  | succ d =>
    obtain ⟨hhead, -, hms⟩ := spelled_eq_object_iff.1 h
    obtain ⟨⟨ms', s₁⟩, hmembers, hclose⟩ := bind_eq_ok_iff.1 hms
    obtain ⟨s₂, hclose, he⟩ := bind_eq_ok_iff.1 hclose
    cases he
    exact ⟨hhead, d, s₁, hmembers, hclose⟩

theorem readRecord_object {depth : Nat} (hdepth : 1 < depth) (name : String) (strict : Bool) (readers : Readers)
    (hhead : s.skipBlanks.rest.head? = some '\x7b') : readRecord name false strict readers depth s =
      (members (readField strict readers) s.skipBlanks.rest.length [] (s.skipBlanks.drop 1) >>= fun p =>
        p.2.closeObject >>= fun s => .ok (.object (fieldsOf p.1), s)) := by
  have hbrace : ¬ s.skipBlanks.rest.head? = some '[' := by rw [hhead]; decide
  unfold readRecord
  dsimp only
  rw [if_neg (fun he => Nat.not_le.2 hdepth he.2), if_neg hbrace, if_pos hhead]
  congr 1
  funext p
  -- a field that is missing is a fault of complete records only
  split <;> rfl

variable {fuel : Nat}

/-- The first of the members that an object is spelled with, and where the others are. -/
theorem members_eq_cons {key : String}
    (h : members (fun _ _ s => do Cursor.spelled d (← s.colon)) fuel seen s = .ok ((key, v) :: ms, s')) :
    ∃ n start s₀ s₁ s₂ s₃, fuel = n + 1 ∧ s.nextKey seen.isEmpty = .ok (some start, s₀) ∧
      start.text = .ok (key, s₁) ∧ s₁.colon = .ok s₂ ∧ s₂.spelled d = .ok (v, s₃) ∧
      members (fun _ _ s => do Cursor.spelled d (← s.colon)) n (key :: seen) s₃ = .ok (ms, s') := by
  cases fuel with
  | zero => exact (fail_ne_ok h).elim
  | succ n =>
    rcases members_succ_eq_ok_iff.1 h with
      ⟨-, he⟩ | ⟨start, s₀, key', s₁, s₂, v', s₃, rest, hnext, htext, hcolon, hv, hrest, he⟩
    · cases he
    · cases he
      exact ⟨n, start, s₀, s₁, s₂, s₃, rfl, hnext, htext, hcolon, hv, hrest⟩

/-- The members of a record are read where the members of an object are spelled. -/
theorem members_of_found (hreaders : ReadersFollow R readers) (h : Found R (readers.map Prod.fst) strict seen ms found)
    (hs : members (fun _ _ s => do Cursor.spelled d (← s.colon)) fuel seen s = .ok (ms, s')) :
    ∃ l, members (readField strict readers) fuel seen s = .ok (l, s') ∧ fieldsOf l = found := by
  induction h generalizing fuel s with
  | nil =>
    cases fuel with
    | zero => exact (fail_ne_ok hs).elim
    | succ fuel =>
      rcases members_succ_eq_ok_iff.1 hs with ⟨hnext, -⟩ | ⟨_, _, _, _, _, _, _, _, _, _, _, _, _, he⟩
      · refine ⟨[], ?_, rfl⟩
        rw [members, hnext]
        rfl
      · cases he
  | @field seen key v w ms found hkey hseen hR _ ih =>
    obtain ⟨n, _, _, _, _, _, rfl, hnext, htext, hcolon, hv, hrest⟩ := members_eq_cons hs
    obtain ⟨l, hl, hfound⟩ := ih hrest
    refine ⟨(key, some w) :: l, ?_, congrArg ((key, w) :: ·) hfound⟩
    rw [members, hnext]
    simp only [bind, Except.bind, htext, readField_field hreaders hkey hseen hR hcolon hv, hl]
  | @other seen key v ms found hkey hstrict _ ih =>
    obtain ⟨n, _, _, _, _, _, rfl, hnext, htext, hcolon, hv, hrest⟩ := members_eq_cons hs
    obtain ⟨l, hl, hfound⟩ := ih hrest
    subst hstrict
    refine ⟨(key, none) :: l, ?_, hfound⟩
    rw [members, hnext]
    simp only [bind, Except.bind, htext, readField_other hkey hcolon hv, hl]

/-- A record that need not be complete is read from an object whose members it finds its fields in. -/
theorem follows_record {depth : Nat} (hdepth : 1 < depth) (name : String) (hreaders : ReadersFollow R readers)
    (h : Found R (readers.map Prod.fst) strict [] ms found) :
    Follows (readRecord name false strict readers depth) (.object ms) (.object found) := by
  intro d s s' hs
  obtain ⟨hhead, d, s₁, hmembers, hclose⟩ := members_of_spelled hs
  obtain ⟨l, hl, rfl⟩ := members_of_found hreaders h hmembers
  rw [readRecord_object hdepth name strict readers hhead]
  simp only [bind, Except.bind, hl, hclose]

/-! ## Strict records -/

/-- A strict record is refused at the first member that is no field, which the fault names. -/
theorem members_of_unknown (hreaders : ReadersFollow R readers) {before after : List (String × Json)}
    {key : String} (hkey : key ∉ readers.map Prod.fst)
    (h : Found R (readers.map Prod.fst) true seen before found)
    (hs : members (fun _ _ s => do Cursor.spelled d (← s.colon)) fuel seen s =
      .ok (before ++ (key, v) :: after, s')) :
    ∃ place, members (readField true readers) fuel seen s =
      .error (.misfit (.unknownField key (readers.map Prod.fst)) place) := by
  induction h generalizing fuel s with
  | nil =>
    obtain ⟨n, _, _, s₁, _, _, rfl, hnext, htext, -, -, -⟩ := members_eq_cons hs
    refine ⟨placeInObject s₁, ?_⟩
    rw [members, hnext]
    simp only [bind, Except.bind, htext, readField, Entries.lookup_eq_none_iff.2 hkey, if_true]
  | field hfield hseen hR _ ih =>
    obtain ⟨n, _, _, _, _, _, rfl, hnext, htext, hcolon, hv, hrest⟩ := members_eq_cons hs
    obtain ⟨place, hplace⟩ := ih hrest
    refine ⟨place, ?_⟩
    rw [members, hnext]
    simp only [bind, Except.bind, htext, readField_field hreaders hfield hseen hR hcolon hv, hplace]
  | other _ hstrict => cases hstrict

/-- A strict record is not read from an object with another member. -/
theorem readRecord_unknown {depth : Nat} (hdepth : 1 < depth) (name : String) (hreaders : ReadersFollow R readers)
    {before after : List (String × Json)} {key : String} (hkey : key ∉ readers.map Prod.fst)
    (h : Found R (readers.map Prod.fst) true [] before found)
    (hs : s.spelled d = .ok (.object (before ++ (key, v) :: after), s')) :
    ∃ place, readRecord name false true readers depth s =
      .error (.misfit (.unknownField key (readers.map Prod.fst)) place) := by
  obtain ⟨hhead, d, s₁, hmembers, -⟩ := members_of_spelled hs
  obtain ⟨place, hplace⟩ := members_of_unknown hreaders hkey h hmembers
  refine ⟨place, ?_⟩
  rw [readRecord_object hdepth name true readers hhead, hplace]
  rfl

end Shape

end FieldRules.Json
