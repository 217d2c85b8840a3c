/-
Entries as the outcome of insertions. `Entries.Records m log` says what entries hold after the insertions
`log`, the first one first: the keys are those inserted, each at the place of its first insertion, and under
each key stands what was inserted last. One insertion extends the log by one (`Records.insert`), so every
sequence of insertions leaves entries that record it (`records_ofList`).

The second half is on collecting: what is collected from distinct keys is the list itself, and collecting
before or after a change of the contents comes to the same.
-/
import FieldRules.Json.Basic
import Mathlib.Data.Finset.Card

namespace FieldRules

namespace Entries

variable {α β : Type} {m : Entries α} {log pairs l : List (String × α)} {key : String}

theorem ext {m n : Entries α} (h : m.toList = n.toList) : m = n := by
  obtain ⟨l, hl⟩ := m
  obtain ⟨l', hl'⟩ := n
  cases h
  rfl

/-! ## One insertion -/

theorem put_of_not_mem (h : key ∉ l.map Prod.fst) (a : α) : put key a l = l ++ [(key, a)] := by
  induction l with
  | nil => rfl
  | cons e rest ih =>
    rw [List.map_cons, List.mem_cons, not_or] at h
    rw [put, if_neg (Ne.symm h.1), ih h.2, List.cons_append]

theorem put_of_mem (h : (l.map Prod.fst).Nodup) (hkey : key ∈ l.map Prod.fst) (a : α) :
    put key a l = l.map fun e => if e.1 = key then (key, a) else e := by
  induction l with
  | nil => cases hkey
  | cons e rest ih =>
    rw [List.map_cons, List.nodup_cons] at h
    rw [List.map_cons, put]
    by_cases hk : e.1 = key
    · -- the keys are distinct, so nothing behind this entry has the key
      have hrest : ∀ e' ∈ rest, (if e'.1 = key then (key, a) else e') = e' := by
        intro e' he'
        refine if_neg fun hk' => h.1 ?_
        rw [hk, ← hk']
        exact List.mem_map_of_mem he'
      rw [if_pos hk, if_pos hk, List.map_congr_left hrest, List.map_id', hk]
    · rw [if_neg hk, if_neg hk, ih h.2 (List.mem_of_ne_of_mem (Ne.symm hk) hkey)]

/-- An insertion under a new key is put behind all entries. -/
theorem toList_insert_of_not_mem (h : key ∉ m.keys) (a : α) : (m.insert key a).toList = m.toList ++ [(key, a)] :=
  put_of_not_mem h a

/-- An insertion under a key that is there changes the content of its entry and nothing else. -/
theorem toList_insert_of_mem (h : key ∈ m.keys) (a : α) :
    (m.insert key a).toList = m.toList.map fun e => if e.1 = key then (key, a) else e :=
  put_of_mem m.nodup h a

/-! ## Lookups -/

theorem lookup_eq_none_iff : lookup key l = none ↔ key ∉ l.map Prod.fst := by
  induction l with
  | nil => simp [lookup]
  | cons e rest ih =>
    rw [lookup, List.map_cons, List.mem_cons, not_or, ← ih]
    by_cases hk : e.1 = key
    · rw [if_pos hk]
      exact ⟨fun h => (Option.some_ne_none _ h).elim, fun h => (h.1 hk.symm).elim⟩
    · rw [if_neg hk]
      exact ⟨fun h => ⟨Ne.symm hk, h⟩, fun h => h.2⟩

theorem contains_iff : m.contains key = true ↔ key ∈ m.keys := by
  rw [contains, Option.isSome_iff_ne_none, ne_eq, get?, lookup_eq_none_iff, not_not]
  rfl

theorem lookup_append (l l' : List (String × α)) : lookup key (l ++ l') = (lookup key l).or (lookup key l') := by
  induction l with
  | nil => rfl
  | cons e rest ih =>
    simp only [List.cons_append, lookup, ih]
    split <;> rfl

/-- A lookup finds the first entry under the key. -/
theorem lookup_eq_some_iff {a : α} :
    lookup key l = some a ↔ ∃ before after, l = before ++ (key, a) :: after ∧ key ∉ before.map Prod.fst := by
  constructor
  · intro h
    induction l with
    | nil => cases h
    | cons e rest ih =>
      obtain ⟨k, b⟩ := e
      rw [lookup] at h
      split at h
      · next hk =>
        cases h
        exact ⟨[], rest, by rw [hk, List.nil_append], List.not_mem_nil⟩
      · next hk =>
        obtain ⟨before, after, rfl, hbefore⟩ := ih h
        refine ⟨(k, b) :: before, after, rfl, ?_⟩
        rw [List.map_cons, List.mem_cons, not_or]
        exact ⟨Ne.symm hk, hbefore⟩
  · rintro ⟨before, after, rfl, hbefore⟩
    induction before with
    | nil => rw [List.nil_append, lookup, if_pos rfl]
    | cons e before ih =>
      rw [List.map_cons, List.mem_cons, not_or] at hbefore
      rw [List.cons_append, lookup, if_neg (Ne.symm hbefore.1), ih hbefore.2]

/-- Where no key stands twice, a lookup finds whatever stands under the key. -/
theorem lookup_eq_some_iff_mem (h : (l.map Prod.fst).Nodup) {a : α} : lookup key l = some a ↔ (key, a) ∈ l := by
  refine ⟨mem_of_lookup, fun hmem => ?_⟩
  obtain ⟨before, after, rfl⟩ := List.append_of_mem hmem
  refine lookup_eq_some_iff.2 ⟨before, after, rfl, fun hkey => ?_⟩
  rw [List.map_append] at h
  exact List.disjoint_of_nodup_append h hkey List.mem_cons_self

/-- Then the order of the entries does not matter to it. -/
theorem lookup_of_perm {l' : List (String × α)} (h : l.Perm l') (hl : (l.map Prod.fst).Nodup) (key : String) :
    lookup key l = lookup key l' := by
  have hl' : (l'.map Prod.fst).Nodup := (h.map Prod.fst).nodup_iff.1 hl
  apply Option.ext
  intro a
  rw [lookup_eq_some_iff_mem hl, lookup_eq_some_iff_mem hl', h.mem_iff]

theorem get?_of_perm {m' : Entries α} (h : m.toList.Perm m'.toList) (key : String) : m.get? key = m'.get? key :=
  lookup_of_perm h m.nodup key

/-- A lookup from the end finds the last entry under the key. -/
theorem lookup_reverse_eq_some_iff {a : α} : lookup key l.reverse = some a ↔
    ∃ before after, l = before ++ (key, a) :: after ∧ key ∉ after.map Prod.fst := by
  rw [lookup_eq_some_iff]
  constructor
  · rintro ⟨before, after, hl, hbefore⟩
    refine ⟨after.reverse, before.reverse, ?_, ?_⟩
    · rw [← l.reverse_reverse, hl]
      simp
    · rwa [List.map_reverse, List.mem_reverse]
  · rintro ⟨before, after, rfl, hafter⟩
    refine ⟨after.reverse, before.reverse, by simp, ?_⟩
    rwa [List.map_reverse, List.mem_reverse]

/-! ## Sequences of insertions -/

/-- What entries hold after a sequence of insertions, the first one first. -/
structure Records (m : Entries α) (log : List (String × α)) : Prop where
  /-- The keys are the inserted ones. -/
  mem_keys : ∀ key, key ∈ m.keys ↔ key ∈ log.map Prod.fst
  /-- They stand in the order of their first insertions. -/
  ordered : m.keys.Pairwise fun k k' => (log.map Prod.fst).idxOf k < (log.map Prod.fst).idxOf k'
  /-- Under a key stands what was inserted last. -/
  last : ∀ key, m.get? key = lookup key log.reverse

theorem records_empty : (empty : Entries α).Records [] :=
  ⟨fun _ => Iff.rfl, List.Pairwise.nil, fun _ => rfl⟩

namespace Records

theorem keys_insert (h : m.Records log) (key k : String) (a : α) :
    k ∈ (m.insert key a).keys ↔ k ∈ (log ++ [(key, a)]).map Prod.fst := by
  rw [Entries.keys_insert, List.map_append, List.mem_append, ← h.mem_keys]
  split
  · next hkey =>
    refine ⟨fun hk => Or.inl hk, fun hk => hk.elim id fun hk => ?_⟩
    rw [List.mem_singleton.1 hk]
    exact hkey
  · exact List.mem_append

theorem ordered_insert (h : m.Records log) (key : String) (a : α) :
    (m.insert key a).keys.Pairwise fun k k' =>
      ((log ++ [(key, a)]).map Prod.fst).idxOf k < ((log ++ [(key, a)]).map Prod.fst).idxOf k' := by
  rw [List.map_append, List.map_singleton]
  -- the first insertion under an old key is where it was
  have hold : ∀ k ∈ m.keys, (log.map Prod.fst ++ [key]).idxOf k = (log.map Prod.fst).idxOf k :=
    fun k hk => List.idxOf_append_of_mem ((h.mem_keys k).1 hk)
  have hkeys : m.keys.Pairwise fun k k' =>
      (log.map Prod.fst ++ [key]).idxOf k < (log.map Prod.fst ++ [key]).idxOf k' :=
    h.ordered.imp_of_mem fun hk hk' hlt => by rwa [hold _ hk, hold _ hk']
  rw [Entries.keys_insert]
  split
  · exact hkeys
  · next hkey =>
    refine List.pairwise_append.2 ⟨hkeys, List.pairwise_singleton _ _, fun k hk k' hk' => ?_⟩
    rw [List.mem_singleton.1 hk', hold k hk, List.idxOf_append_of_notMem fun hlog => hkey ((h.mem_keys key).2 hlog)]
    have hlt := List.idxOf_lt_length_of_mem ((h.mem_keys k).1 hk)
    omega

/-- One insertion more. -/
theorem insert (h : m.Records log) (key : String) (a : α) : (m.insert key a).Records (log ++ [(key, a)]) where
  mem_keys k := h.keys_insert key k a
  ordered := h.ordered_insert key a
  last k := by
    rw [get?_insert, List.reverse_append, List.reverse_singleton, List.singleton_append, lookup, h.last]
    exact if_congr eq_comm rfl rfl

theorem insertAll (h : m.Records log) (pairs : List (String × α)) : (m.insertAll pairs).Records (log ++ pairs) := by
  induction pairs generalizing m log with
  | nil => rwa [List.append_nil]
  | cons e rest ih =>
    have hstep := ih (h.insert e.1 e.2)
    rwa [List.append_assoc, List.singleton_append] at hstep

theorem nodup (h : m.Records log) : m.keys.Nodup :=
  h.ordered.imp fun hlt he => by rw [he] at hlt; exact lt_irrefl _ hlt

theorem get?_eq_some_iff (h : m.Records log) {key : String} {a : α} :
    m.get? key = some a ↔ ∃ before after, log = before ++ (key, a) :: after ∧ key ∉ after.map Prod.fst := by
  rw [h.last, lookup_reverse_eq_some_iff]

theorem get?_eq_none_iff (h : m.Records log) {key : String} : m.get? key = none ↔ key ∉ log.map Prod.fst := by
  rw [← h.mem_keys]
  exact lookup_eq_none_iff

/-- There are as many entries as different keys were inserted. -/
theorem size_eq (h : m.Records log) : m.size = (log.map Prod.fst).toFinset.card := by
  have hset : m.keys.toFinset = (log.map Prod.fst).toFinset := by
    ext key
    rw [List.mem_toFinset, List.mem_toFinset, h.mem_keys]
  rw [← hset, List.toFinset_card_of_nodup h.nodup, keys, List.length_map]
  rfl

end Records

/-- Entries that are collected from pairs record the pairs. -/
theorem records_ofList (pairs : List (String × α)) : (ofList pairs).Records pairs :=
  records_empty.insertAll pairs

/-! ## Collecting -/

theorem insertAll_append (m : Entries α) (pairs pairs' : List (String × α)) :
    m.insertAll (pairs ++ pairs') = (m.insertAll pairs).insertAll pairs' :=
  List.foldl_append

theorem ofList_concat (pairs : List (String × α)) (key : String) (a : α) :
    ofList (pairs ++ [(key, a)]) = (ofList pairs).insert key a :=
  insertAll_append empty pairs [(key, a)]

/-- Distinct keys are collected as they are. -/
theorem toList_ofList (h : (pairs.map Prod.fst).Nodup) : (ofList pairs).toList = pairs := by
  induction pairs using List.reverseRecOn with
  | nil => rfl
  | append_singleton pairs e ih =>
    rw [List.map_append, List.map_singleton, List.nodup_append] at h
    obtain ⟨hpairs, -, hnew⟩ := h
    have hkey : e.1 ∉ (ofList pairs).keys := by
      rw [(records_ofList pairs).mem_keys]
      exact fun hmem => hnew _ hmem _ (List.mem_singleton_self _) rfl
    rw [ofList_concat, toList_insert_of_not_mem hkey, ih hpairs]

theorem ofList_toList (m : Entries α) : ofList m.toList = m :=
  ext (toList_ofList m.nodup)

theorem mem_of_mem_put {e : String × α} {a : α} (h : e ∈ put key a l) : e = (key, a) ∨ e ∈ l := by
  induction l with
  | nil => exact Or.inl (List.mem_singleton.1 h)
  | cons e' rest ih =>
    rw [put] at h
    split at h
    · next hk =>
      rcases List.mem_cons.1 h with rfl | h
      · exact Or.inl (by rw [hk])
      · exact Or.inr (List.mem_cons_of_mem _ h)
    · rcases List.mem_cons.1 h with rfl | h
      · exact Or.inr List.mem_cons_self
      · exact (ih h).imp_right (List.mem_cons_of_mem _)

/-- Nothing is collected that was not among the pairs. -/
theorem mem_of_mem_ofList {e : String × α} (h : e ∈ (ofList pairs).toList) : e ∈ pairs := by
  induction pairs using List.reverseRecOn with
  | nil => cases h
  | append_singleton pairs e' ih =>
    rw [ofList_concat] at h
    rw [List.mem_append, List.mem_singleton]
    exact (mem_of_mem_put h).symm.imp_left ih

theorem put_map (f : α → β) (key : String) (a : α) (l : List (String × α)) :
    put key (f a) (l.map fun e => (e.1, f e.2)) = (put key a l).map fun e => (e.1, f e.2) := by
  induction l with
  | nil => rfl
  | cons e rest ih =>
    rw [List.map_cons, put, put, ih]
    split <;> rfl

/-- Contents may be changed before or after collecting. -/
theorem toList_ofList_map (f : α → β) (pairs : List (String × α)) :
    (ofList (pairs.map fun e => (e.1, f e.2))).toList = (ofList pairs).toList.map fun e => (e.1, f e.2) := by
  induction pairs using List.reverseRecOn with
  | nil => rfl
  | append_singleton pairs e ih =>
    rw [List.map_append, List.map_singleton, ofList_concat, ofList_concat]
    show put e.1 (f e.2) (ofList (pairs.map fun e => (e.1, f e.2))).toList = _
    rw [ih]
    exact put_map f e.1 e.2 _

/-- Collecting what was collected changes nothing, also when the contents are changed in between. -/
theorem ofList_map_toList_ofList (f : α → β) (pairs : List (String × α)) :
    ofList ((ofList pairs).toList.map fun e => (e.1, f e.2)) = ofList (pairs.map fun e => (e.1, f e.2)) := by
  rw [← toList_ofList_map, ofList_toList]

end Entries

/-- An object of pairs has the members that are collected from them. -/
theorem Json.ofPairs_eq (pairs : List (String × Json)) : Json.ofPairs pairs = .object (Entries.ofList pairs).toList := by
  suffices h : ∀ m : Entries Json,
      pairs.foldl (fun l e => Entries.put e.1 e.2 l) m.toList = (m.insertAll pairs).toList from
    congrArg Json.object (h Entries.empty)
  induction pairs with
  | nil => exact fun _ => rfl
  | cons e rest ih => exact fun m => ih (m.insert e.1 e.2)

end FieldRules
