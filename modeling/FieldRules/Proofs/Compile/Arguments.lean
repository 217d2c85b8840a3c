/-
What the arguments of a constraint say. `Constraint.Reads c arguments check` relates the arguments that
stand before the message to the check that they make, by the kinds of arguments alone: sizes, numbers,
texts, flags. The main statement is `check_eq_ok_iff`: on arguments whose number the constraint accepts,
reading them succeeds exactly with the checks of that relation.

Constraints that differ only in the check that they make are taken together: the two bounds of a length,
the five comparisons, the three bounds of a size.
-/
import FieldRules.Proofs.Traversal

namespace FieldRules

/-! ## Families of constraints -/

namespace Constraint

/-- The check of a bound of a length, for its size and its flag. -/
def lengthBound? : Constraint → Option (Nat → Bool → TextCheck)
  | minLength => some .minLength
  | maxLength => some .maxLength
  | _ => none

/-- The relation of a comparison. -/
def comparison? : Constraint → Option Comparison
  | lowerOrEqual => some .atMost
  | greaterOrEqual => some .atLeast
  | equal => some .equal
  | greaterThan => some .above
  | lowerThan => some .below
  | _ => none

/-- The check of a bound of a size. -/
def sizeBound? : Constraint → Option (Nat → ArrayCheck)
  | minSize => some .minSize
  | maxSize => some .maxSize
  | size => some .size
  | _ => none

/-- The arguments of a constraint, the message left out, with the check that they make. -/
inductive Reads [PatternEngine] : Constraint → List Json → Check → Prop
  | length {c : Constraint} {mk : Nat → Bool → TextCheck} {v : Json} {n : Nat} :
      c.lengthBound? = some mk → sizeOf? v = some n → Reads c [v] (.text (mk n false))
  | lengthFlag {c : Constraint} {mk : Nat → Bool → TextCheck} {v : Json} {n : Nat} {b : Bool} :
      c.lengthBound? = some mk → sizeOf? v = some n → Reads c [v, .bool b] (.text (mk n b))
  | pattern {s : String} {search : Search} :
      PatternEngine.compile s = .ok search → Reads .pattern [.text s] (.text (.pattern s search))
  | enum {names : List String} : Reads .enum [.list (names.map .text)] (.text (.enum names))
  | email : Reads .email [] (.text .email)
  | integer : Reads .integer [] (.number .integer)
  | compare {c : Constraint} {op : Comparison} {n : Number} :
      c.comparison? = some op → Reads c [.number n] (.number (.compare op n.toBinary64))
  | between {l u : Number} (h : l.toBinary64 < u.toBinary64) :
      Reads .between [.number l, .number u] (.number (.between l.toBinary64 u.toBinary64 h))
  | elementType {t : ElementType} : Reads .elementType [.text t.name] (.array (.elementType t))
  | size {c : Constraint} {mk : Nat → ArrayCheck} {v : Json} {n : Nat} :
      c.sizeBound? = some mk → sizeOf? v = some n → Reads c [v] (.array (mk n))

theorem accepts_iff {c : Constraint} {n : Nat} :
    c.accepts n = true ↔ n = c.arity ∨ c.takesFlag = true ∧ n = c.arity + 1 := by
  simp only [accepts, Bool.or_eq_true, Bool.and_eq_true, beq_iff_eq]

end Constraint

theorem ElementType.ofName?_eq_some_iff {s : String} {t : ElementType} :
    ElementType.ofName? s = some t ↔ s = t.name := by
  constructor
  · intro h
    simpa [eq_comm] using List.find?_some h
  · rintro rfl
    cases t <;> decide

theorem Json.text?_eq_some_iff {v : Json} {s : String} : v.text? = some s ↔ v = .text s := by
  cases v <;> simp [Json.text?]

theorem Json.mapM_text?_eq_some_iff {items : List Json} {names : List String} :
    items.mapM Json.text? = some names ↔ items = names.map .text := by
  induction items generalizing names with
  | nil => cases names <;> simp
  | cons v items ih =>
    rw [List.mapM_cons]
    simp only [Option.bind_eq_bind, Option.bind_eq_some_iff, Json.text?_eq_some_iff, ih, Option.pure_def,
      Option.some.injEq]
    constructor
    · rintro ⟨s, rfl, rest, rfl, rfl⟩; rfl
    · intro h
      cases names with
      | nil => cases h
      | cons s rest => cases h; exact ⟨s, rfl, rest, rfl, rfl⟩

namespace Rule

variable {r : Rule}

/-! ## Single arguments -/

theorem size_eq_ok_iff {v : Json} {n : Nat} : r.size v = .ok n ↔ sizeOf? v = some n := by
  unfold size
  cases sizeOf? v with
  | none => simp [invalid]
  | some m => simp

theorem number_eq_ok_iff {v : Json} {x : Binary64} :
    r.number v = .ok x ↔ ∃ n, v = .number n ∧ n.toBinary64 = x := by
  cases v <;> simp [number, invalid]

theorem trimFlag_nil {b : Bool} : r.trimFlag [] = .ok b ↔ b = false := by
  simp [trimFlag, eq_comm]

theorem trimFlag_singleton {v : Json} {b : Bool} : r.trimFlag [v] = .ok b ↔ v = .bool b := by
  cases v <;> simp [trimFlag, invalid]

theorem pattern_eq_ok_iff [PatternEngine] {v : Json} {k : TextCheck} :
    r.pattern v = .ok k ↔
      ∃ s search, v = .text s ∧ PatternEngine.compile s = .ok search ∧ k = .pattern s search := by
  cases v with
  | text s =>
    unfold pattern
    cases hs : PatternEngine.compile s with
    | error reason => simp [hs]
    | ok search => simp [hs, eq_comm]
  | _ => simp [pattern, invalid]

theorem names_eq_ok_iff {v : Json} {names : List String} :
    r.names v = .ok names ↔ v = .list (names.map .text) := by
  cases v with
  | list items =>
    unfold Rule.names
    rw [Json.list.injEq, ← Json.mapM_text?_eq_some_iff]
    cases h : items.mapM Json.text? with
    | none => simp [h, invalid]
    | some found => simp [h]
  | _ => simp [Rule.names, invalid]

theorem elementType_eq_ok_iff {v : Json} {t : ElementType} :
    r.elementType v = .ok t ↔ v = .text t.name := by
  have hread : r.elementType v = .ok t ↔ v.text?.bind ElementType.ofName? = some t := by
    unfold elementType
    cases v.text?.bind ElementType.ofName? <;> simp [invalid]
  rw [hread, Option.bind_eq_some_iff]
  simp only [Json.text?_eq_some_iff, ElementType.ofName?_eq_some_iff, exists_eq_right]

theorem range_eq_ok_iff {low high : Json} {k : NumberCheck} :
    r.range low high = .ok k ↔ ∃ (l u : Number) (h : l.toBinary64 < u.toBinary64),
      low = .number l ∧ high = .number u ∧ k = .between l.toBinary64 u.toBinary64 h := by
  unfold range
  simp only [bind_eq_ok_iff, number_eq_ok_iff]
  constructor
  · rintro ⟨_, ⟨l, rfl, rfl⟩, _, ⟨u, rfl, rfl⟩, hk⟩
    split at hk
    · next h => cases hk; exact ⟨l, u, h, rfl, rfl, rfl⟩
    · cases hk
  · rintro ⟨l, u, h, rfl, rfl, rfl⟩
    exact ⟨_, ⟨l, rfl, rfl⟩, _, ⟨u, rfl, rfl⟩, dif_pos h⟩

/-! ## All arguments of a constraint -/

variable [PatternEngine]

theorem check_lengthBound {c : Constraint} {mk : Nat → Bool → TextCheck} (hc : c.lengthBound? = some mk)
    (v : Json) (flag : List Json) {k : Check} :
    r.check c (v :: flag) = .ok k ↔ ∃ n b, sizeOf? v = some n ∧ r.trimFlag flag = .ok b ∧ k = .text (mk n b) := by
  have hcheck : r.check c (v :: flag) =
      r.size v >>= fun n => r.trimFlag flag >>= fun b => .ok (.text (mk n b)) := by
    cases c <;> cases hc <;> rfl
  rw [hcheck]
  simp only [bind_eq_ok_iff, size_eq_ok_iff, Except.ok.injEq]
  constructor
  · rintro ⟨n, hn, b, hb, rfl⟩; exact ⟨n, b, hn, hb, rfl⟩
  · rintro ⟨n, b, hn, hb, rfl⟩; exact ⟨n, hn, b, hb, rfl⟩

theorem check_comparison {c : Constraint} {op : Comparison} (hc : c.comparison? = some op) (v : Json)
    {k : Check} :
    r.check c [v] = .ok k ↔ ∃ n, v = .number n ∧ k = .number (.compare op n.toBinary64) := by
  have hcheck : r.check c [v] = r.number v >>= fun x => .ok (.number (.compare op x)) := by
    cases c <;> cases hc <;> rfl
  rw [hcheck]
  simp only [bind_eq_ok_iff, number_eq_ok_iff, Except.ok.injEq]
  constructor
  · rintro ⟨_, ⟨n, rfl, rfl⟩, rfl⟩; exact ⟨n, rfl, rfl⟩
  · rintro ⟨n, rfl, rfl⟩; exact ⟨_, ⟨n, rfl, rfl⟩, rfl⟩

theorem check_sizeBound {c : Constraint} {mk : Nat → ArrayCheck} (hc : c.sizeBound? = some mk) (v : Json)
    {k : Check} : r.check c [v] = .ok k ↔ ∃ n, sizeOf? v = some n ∧ k = .array (mk n) := by
  have hcheck : r.check c [v] = r.size v >>= fun n => .ok (.array (mk n)) := by
    cases c <;> cases hc <;> rfl
  rw [hcheck]
  simp only [bind_eq_ok_iff, size_eq_ok_iff, Except.ok.injEq]
  constructor
  · rintro ⟨n, hn, rfl⟩; exact ⟨n, hn, rfl⟩
  · rintro ⟨n, hn, rfl⟩; exact ⟨n, hn, rfl⟩

end Rule

namespace Constraint

/-! The accepted numbers of arguments, as shapes of the list. -/

theorem accepted_length {c : Constraint} {mk : Nat → Bool → TextCheck} {arguments : List Json}
    (hc : c.lengthBound? = some mk) (h : c.accepts arguments.length = true) :
    (∃ v, arguments = [v]) ∨ ∃ v w, arguments = [v, w] := by
  have hlen : arguments.length = 1 ∨ arguments.length = 2 := by
    rcases accepts_iff.1 h with h | ⟨-, h⟩ <;> cases c <;> cases hc
    · exact Or.inl h
    · exact Or.inl h
    · exact Or.inr h
    · exact Or.inr h
  exact hlen.imp List.length_eq_one_iff.1 List.length_eq_two.1

theorem accepted_exactly {c : Constraint} {arguments : List Json} (hf : c.takesFlag = false)
    (h : c.accepts arguments.length = true) : arguments.length = c.arity := by
  rcases accepts_iff.1 h with h | ⟨ht, -⟩
  · exact h
  · rw [hf] at ht; cases ht

/-! Reading, in both directions. -/

variable [PatternEngine]

/-- The related arguments are as many as the constraint accepts. -/
theorem Reads.accepts {c : Constraint} {arguments : List Json} {k : Check} (h : c.Reads arguments k) :
    c.accepts arguments.length = true := by
  cases h with
  | length hc _ => cases c <;> cases hc <;> rfl
  | lengthFlag hc _ => cases c <;> cases hc <;> rfl
  | compare hc => cases c <;> cases hc <;> rfl
  | size hc _ => cases c <;> cases hc <;> rfl
  | _ => rfl

theorem Reads.check_eq_ok {c : Constraint} {arguments : List Json} {k : Check} (h : c.Reads arguments k)
    (r : Rule) : r.check c arguments = .ok k := by
  cases h with
  | length hc hn => exact (Rule.check_lengthBound hc _ _).2 ⟨_, _, hn, Rule.trimFlag_nil.2 rfl, rfl⟩
  | lengthFlag hc hn => exact (Rule.check_lengthBound hc _ _).2 ⟨_, _, hn, Rule.trimFlag_singleton.2 rfl, rfl⟩
  | pattern hs => exact bind_eq_ok_iff.2 ⟨_, Rule.pattern_eq_ok_iff.2 ⟨_, _, rfl, hs, rfl⟩, rfl⟩
  | enum => exact bind_eq_ok_iff.2 ⟨_, Rule.names_eq_ok_iff.2 rfl, rfl⟩
  | email => rfl
  | integer => rfl
  | compare hc => exact (Rule.check_comparison hc _).2 ⟨_, rfl, rfl⟩
  | between hlt => exact bind_eq_ok_iff.2 ⟨_, Rule.range_eq_ok_iff.2 ⟨_, _, hlt, rfl, rfl, rfl⟩, rfl⟩
  | elementType => exact bind_eq_ok_iff.2 ⟨_, Rule.elementType_eq_ok_iff.2 rfl, rfl⟩
  | size hc hn => exact (Rule.check_sizeBound hc _).2 ⟨_, hn, rfl⟩

/-- Reading succeeds only with a related check. -/
theorem reads_of_check {r : Rule} {c : Constraint} {arguments : List Json} {k : Check}
    (h : c.accepts arguments.length = true) (hk : r.check c arguments = .ok k) : c.Reads arguments k := by
  -- first the three families, each of which has one form for all its members
  cases hl : c.lengthBound? with
  | some mk =>
    rcases accepted_length hl h with ⟨v, rfl⟩ | ⟨v, w, rfl⟩
    · obtain ⟨n, b, hn, hb, rfl⟩ := (Rule.check_lengthBound hl _ _).1 hk
      rw [Rule.trimFlag_nil.1 hb]
      exact .length hl hn
    · obtain ⟨n, b, hn, hb, rfl⟩ := (Rule.check_lengthBound hl _ _).1 hk
      rw [Rule.trimFlag_singleton.1 hb]
      exact .lengthFlag hl hn
  | none =>
  have hlen : arguments.length = c.arity := accepted_exactly (by cases c <;> first | rfl | cases hl) h
  cases hc : c.comparison? with
  | some op =>
    obtain ⟨v, rfl⟩ := List.length_eq_one_iff.1 (hlen.trans (by cases c <;> first | rfl | cases hc))
    obtain ⟨n, rfl, rfl⟩ := (Rule.check_comparison hc v).1 hk
    exact .compare hc
  | none =>
  cases hs : c.sizeBound? with
  | some mk =>
    obtain ⟨v, rfl⟩ := List.length_eq_one_iff.1 (hlen.trans (by cases c <;> first | rfl | cases hs))
    obtain ⟨n, hn, rfl⟩ := (Rule.check_sizeBound hs v).1 hk
    exact .size hs hn
  | none =>
  -- what is left makes a check of its own kind
  cases c with
  | pattern =>
    obtain ⟨v, rfl⟩ := List.length_eq_one_iff.1 hlen
    obtain ⟨t, ht, hk⟩ := bind_eq_ok_iff.1 hk
    obtain ⟨s, search, rfl, hs, rfl⟩ := Rule.pattern_eq_ok_iff.1 ht
    cases hk; exact .pattern hs
  | enum =>
    obtain ⟨v, rfl⟩ := List.length_eq_one_iff.1 hlen
    obtain ⟨names, hnames, hk⟩ := bind_eq_ok_iff.1 hk
    rw [Rule.names_eq_ok_iff.1 hnames]
    cases hk; exact .enum
  | email => rw [List.length_eq_zero_iff.1 hlen]; cases hk; exact .email
  | integer => rw [List.length_eq_zero_iff.1 hlen]; cases hk; exact .integer
  | between =>
    obtain ⟨low, high, rfl⟩ := List.length_eq_two.1 hlen
    obtain ⟨t, ht, hk⟩ := bind_eq_ok_iff.1 hk
    obtain ⟨l, u, hlt, rfl, rfl, rfl⟩ := Rule.range_eq_ok_iff.1 ht
    cases hk; exact .between hlt
  | elementType =>
    obtain ⟨v, rfl⟩ := List.length_eq_one_iff.1 hlen
    obtain ⟨t, ht, hk⟩ := bind_eq_ok_iff.1 hk
    rw [Rule.elementType_eq_ok_iff.1 ht]
    cases hk; exact .elementType
  | minLength | maxLength => cases hl
  | lowerOrEqual | greaterOrEqual | equal | greaterThan | lowerThan => cases hc
  | minSize | maxSize | size => cases hs

end Constraint

/-- Arguments that are as many as the constraint accepts are read as the check that they are related to. -/
theorem Rule.check_eq_ok_iff [PatternEngine] {r : Rule} {c : Constraint} {arguments : List Json} {k : Check} :
    (c.accepts arguments.length = true ∧ r.check c arguments = .ok k) ↔ c.Reads arguments k :=
  ⟨fun ⟨h, hk⟩ => Constraint.reads_of_check h hk, fun h => ⟨h.accepts, h.check_eq_ok r⟩⟩

end FieldRules
