/-
The ways a declaration comes to be, with the insertions on the way: the empty one, a rule or a field more, the
collection of pairs, and what a value or a text is read as. Every way is the collection of its insertions
(`FieldSpec.Built.eq_ofList`, `SchemaSpec.Built.eq_ofList`), so each declaration that can be reached has its
keys once, in the order of their first insertions, with what was inserted last.
-/
import FieldRules.Proofs.Declaration.Loading

namespace FieldRules

/-- What entries are that the insertions `log` have built. -/
structure Entries.History {α : Type} (m : Entries α) (log : List (String × α)) : Prop where
  nodup : m.keys.Nodup
  mem_keys : ∀ key, key ∈ m.keys ↔ key ∈ log.map Prod.fst
  /-- The keys stand in the order of their first insertions. -/
  ordered : m.keys.Pairwise fun k k' => (log.map Prod.fst).idxOf k < (log.map Prod.fst).idxOf k'
  /-- Under a key stands what was inserted last. -/
  found : ∀ key a, m.get? key = some a ↔
    ∃ before after, log = before ++ (key, a) :: after ∧ key ∉ after.map Prod.fst
  absent : ∀ key, m.get? key = none ↔ key ∉ log.map Prod.fst
  size : m.size = (log.map Prod.fst).toFinset.card
  /-- Another insertion under a key changes what stands under it, and nothing else. -/
  replaced : ∀ key a, key ∈ m.keys →
    (m.insert key a).toList = m.toList.map fun e => if e.1 = key then (key, a) else e

theorem Entries.history_ofList {α : Type} (log : List (String × α)) : (ofList log).History log where
  nodup := (records_ofList log).nodup
  mem_keys := (records_ofList log).mem_keys
  ordered := (records_ofList log).ordered
  found _ _ := (records_ofList log).get?_eq_some_iff
  absent _ := (records_ofList log).get?_eq_none_iff
  size := (records_ofList log).size_eq
  replaced _ a h := toList_insert_of_mem h a

/-! ## Fields -/

/-- The fields that can be built, each with its insertions. -/
inductive FieldSpec.Built : FieldSpec → List (String × List Json) → Prop
  | new : Built Entries.empty []
  | rule {f log} (key : String) (args : List Json) : Built f log → Built (f.insert key args) (log ++ [(key, args)])
  | collected (rules : List (String × List Json)) : Built (Entries.ofList rules) rules
  | ofJson {v : Json} {f : FieldSpec} : FieldSpec.ofJson v = .ok f → Built f (insertions id v)
  | ofText {s : String} {t : Json} {f : FieldSpec} : Json.spelled s = .ok t → FieldSpec.ofText s = .ok f →
      Built f (insertions Json.merged t)

namespace FieldSpec

variable {f : FieldSpec} {log : List (String × List Json)}

theorem ofText_eq_ofList {s : String} {t : Json} (ht : Json.spelled s = .ok t) (h : ofText s = .ok f) :
    f = Entries.ofList (insertions Json.merged t) := by
  obtain ⟨t', ht', -, rfl⟩ := ofText_eq_ok_iff.1 h
  cases ht.symm.trans ht'
  exact ofShaped_merged t

theorem Built.eq_ofList (h : Built f log) : f = Entries.ofList log := by
  induction h with
  | new => rfl
  | rule key args _ ih => rw [ih, Entries.ofList_concat]
  | collected rules => rfl
  | ofJson h => rw [← (ofJson_eq_ok_iff.1 h).2, ofShaped_eq]
  | ofText ht h => exact ofText_eq_ofList ht h

theorem Built.history (h : Built f log) : f.History log := by
  rw [h.eq_ofList]
  exact Entries.history_ofList log

theorem built_of_ofText {s : String} (h : ofText s = .ok f) : ∃ log, Built f log := by
  obtain ⟨t, ht, -⟩ := ofText_eq_ok_iff.1 h
  exact ⟨_, .ofText ht h⟩

end FieldSpec

/-! ## Schemas -/

/-- The schemas that can be built, each with its insertions; what is inserted has been built before. -/
inductive SchemaSpec.Built : SchemaSpec → List (String × FieldSpec) → Prop
  | new : Built Entries.empty []
  | field {c log} (name : String) {f : FieldSpec} {rules} : Built c log → FieldSpec.Built f rules →
      Built (c.insert name f) (log ++ [(name, f)])
  | collected (fields : List (String × FieldSpec)) : (∀ e ∈ fields, ∃ rules, FieldSpec.Built e.2 rules) →
      Built (Entries.ofList fields) fields
  | ofJson {v : Json} {c : SchemaSpec} : SchemaSpec.ofJson v = .ok c → Built c (insertions id v)
  | ofText {s : String} {t : Json} {c : SchemaSpec} : Json.spelled s = .ok t → SchemaSpec.ofText s = .ok c →
      Built c (insertions Json.merged t)

namespace SchemaSpec

variable {c : SchemaSpec} {log : List (String × FieldSpec)}

theorem ofText_eq_ofList {s : String} {t : Json} (ht : Json.spelled s = .ok t) (h : ofText s = .ok c) :
    c = Entries.ofList (insertions Json.merged t) := by
  obtain ⟨t', ht', -, rfl⟩ := ofText_eq_ok_iff.1 h
  cases ht.symm.trans ht'
  exact ofShaped_merged t

theorem Built.eq_ofList (h : Built c log) : c = Entries.ofList log := by
  induction h with
  | new => rfl
  | field name _ _ ih => rw [ih, Entries.ofList_concat]
  | collected fields _ => rfl
  | ofJson h => rw [← (ofJson_eq_ok_iff.1 h).2, ofShaped_eq]
  | ofText ht h => exact ofText_eq_ofList ht h

theorem built_of_mem_insertions {g : Json → Json} {v : Json} {e : String × FieldSpec} (h : e ∈ insertions g v) :
    ∃ rules, FieldSpec.Built e.2 rules := by
  cases v with
  | object members =>
    obtain ⟨member, -, rfl⟩ := List.mem_map.1 h
    exact ⟨_, .collected _⟩
  | _ => cases h

/-- All that is inserted on the way to a schema has been built itself. -/
theorem Built.inserted (h : Built c log) : ∀ e ∈ log, ∃ rules, FieldSpec.Built e.2 rules := by
  induction h with
  | new =>
    intro e he
    cases he
  | field name _ hf ih =>
    intro e he
    rcases List.mem_append.1 he with he | he
    · exact ih e he
    · rw [List.mem_singleton.1 he]
      exact ⟨_, hf⟩
  | collected fields hfields => exact hfields
  | ofJson _ => exact fun e he => built_of_mem_insertions he
  | ofText _ _ => exact fun e he => built_of_mem_insertions he

theorem built_of_ofText {s : String} (h : ofText s = .ok c) : ∃ log, Built c log := by
  obtain ⟨t, ht, -⟩ := ofText_eq_ok_iff.1 h
  exact ⟨_, .ofText ht h⟩

end SchemaSpec

/-- Whatever is built has the history of its insertions, a schema at both levels: the fields in it have been
built as well. What is read from a text has been built. -/
theorem SchemaSpec.history_of_built :
    (∀ f log, FieldSpec.Built f log → f.History log) ∧
    (∀ c log, SchemaSpec.Built c log → c.History log ∧
      ∀ name f, c.get? name = some f → ∃ rules, FieldSpec.Built f rules ∧ f.History rules) ∧
    (∀ s f, FieldSpec.ofText s = .ok f → ∃ log, FieldSpec.Built f log) ∧
    ∀ s c, SchemaSpec.ofText s = .ok c → ∃ log, SchemaSpec.Built c log := by
  refine ⟨fun f log h => h.history, fun c log h => ?_, fun s f => FieldSpec.built_of_ofText,
    fun s c => built_of_ofText⟩
  have hhistory : c.History log := by
    rw [h.eq_ofList]
    exact Entries.history_ofList log
  refine ⟨hhistory, fun name f hf => ?_⟩
  obtain ⟨before, after, rfl, -⟩ := (hhistory.found name f).1 hf
  obtain ⟨rules, hrules⟩ := h.inserted (name, f) (List.mem_append_right _ List.mem_cons_self)
  exact ⟨rules, hrules, hrules.history⟩

/-- A text that repeats a name and two keys. -/
def repeatingText : String :=
  "\x7b\"a\":\x7b\"min\":[1],\"type\":[],\"min\":[2]\x7d,\"b\":\x7b\x7d,\"a\":\x7b\"max\":[3],\"max\":[]\x7d\x7d"

/-- The schema that is read from it, with a field more and the first one declared again. -/
theorem SchemaSpec.history_of_repeatingText :
    let again : FieldSpec := (Entries.empty.insert "type" [.text "string"]).insert "type" []
    ∃ c log, ofText repeatingText = .ok c ∧
      c.toList = [("a", Entries.ofList [("max", [])]), ("b", Entries.empty)] ∧
      ((c.insert "c" again).insert "a" again).toList = [("a", again), ("b", Entries.empty), ("c", again)] ∧
      ((c.insert "c" again).insert "a" again).History (log ++ [("c", again)] ++ [("a", again)]) := by
  intro again
  have hagain : FieldSpec.Built again [("type", [.text "string"]), ("type", [])] :=
    .rule "type" [] (.rule "type" [.text "string"] .new)
  have htext : ofText repeatingText = .ok (Entries.ofList [("a", Entries.ofList [("max", [])]), ("b", Entries.empty)]) :=
    rfl
  obtain ⟨log, hlog⟩ := history_of_built.2.2.2 repeatingText _ htext
  exact ⟨_, log, htext, rfl, rfl, (history_of_built.2.1 _ _ ((hlog.field "c" hagain).field "a" hagain)).1⟩

end FieldRules
