/-
The bounds of lengths and of sizes. A bound is read by its exact value: the natural numbers of 64 bits are taken for
what they are, and one number more is taken, the first one beyond them, for the greatest of them (`Json.HasSize`).
The main statement is `compile_size`: a declaration compiles with such a bound, to the check with this number, and
is refused for any other value in its place.
-/
import FieldRules.Proofs.Compile.Fault
import FieldRules.Proofs.Decimal.Value

namespace FieldRules

/-- The value is a number that stands for the size `n`: itself, or the first number of more than 64 bits for the
greatest one of 64 bits. -/
def Json.HasSize (v : Json) (n : Nat) : Prop :=
  ∃ x : Number, v = .number x ∧
    (x.value = n ∧ n < twoPow 64 ∨ x.value = twoPow 64 ∧ n = twoPow 64 - 1)

/-! ## Sizes of numbers -/

theorem Number.value_natural_eq_iff {k : Fin (twoPow 64)} {n : Nat} : (natural k).value = n ↔ (k : ℕ) = n :=
  Nat.cast_inj

theorem Number.value_negative_ne {k : Fin (twoPow 63)} {n : Nat} : (negative k).value ≠ n := by
  have hk : (0 : ℚ) ≤ (k : ℕ) := Nat.cast_nonneg _
  have hn : (0 : ℚ) ≤ n := Nat.cast_nonneg _
  unfold value
  intro h
  linarith

/-- Of the numbers with a point, those up to `2 ^ 64` are taken, and the cut to 64 bits changes the last one. -/
theorem sizeOf?_real_eq_some_iff {x : Binary64} {n : Nat} :
    sizeOf? (.number (.real x)) = some n ↔ ∃ k : ℕ, x.value = k ∧ k ≤ twoPow 64 ∧ n = min k (twoPow 64 - 1) := by
  simp only [sizeOf?, Option.ite_none_right_eq_some, Option.some.injEq, Bool.and_eq_true, decide_eq_true_eq,
    Binary64.value_eq_natCast_iff]
  constructor
  · rintro ⟨⟨⟨hsign, hintegral⟩, hle⟩, rfl⟩
    exact ⟨x.wholePart, ⟨hsign, hintegral, rfl⟩, hle, rfl⟩
  · rintro ⟨k, ⟨hsign, hintegral, rfl⟩, hle, rfl⟩
    exact ⟨⟨⟨hsign, hintegral⟩, hle⟩, rfl⟩

theorem sizeOf?_eq_some_iff {v : Json} {n : Nat} : sizeOf? v = some n ↔ v.HasSize n := by
  cases v with
  | number x =>
    have hsize : (Json.number x).HasSize n ↔
        x.value = n ∧ n < twoPow 64 ∨ x.value = twoPow 64 ∧ n = twoPow 64 - 1 := by
      simp [Json.HasSize]
    rw [hsize]
    cases x with
    | natural k =>
      have hk := k.isLt
      rw [Number.value_natural_eq_iff, Number.value_natural_eq_iff]
      simp only [sizeOf?, Option.some.injEq]
      omega
    | negative k =>
      simp only [sizeOf?, Number.value_negative_ne, false_and, or_false, reduceCtorEq]
    | real x =>
      rw [sizeOf?_real_eq_some_iff]
      constructor
      · rintro ⟨k, hk, hle, rfl⟩
        rcases hle.lt_or_eq with hlt | rfl
        · rw [min_eq_left (Nat.le_sub_one_of_lt hlt)]
          exact Or.inl ⟨hk, hlt⟩
        · exact Or.inr ⟨hk, rfl⟩
      · rintro (⟨hn, hlt⟩ | ⟨htop, rfl⟩)
        · exact ⟨n, hn, hlt.le, (min_eq_left (Nat.le_sub_one_of_lt hlt)).symm⟩
        · exact ⟨twoPow 64, htop, le_rfl, rfl⟩
  | _ => simp [sizeOf?, Json.HasSize]

theorem Json.isSize_iff {v : Json} : v.IsSize ↔ ∃ n, v.HasSize n :=
  exists_congr fun _ => sizeOf?_eq_some_iff

/-! ## Rules with a size -/

namespace Constraint

/-- The check of a constraint on a length or a size, for its bound and its flag. -/
def sizeCheck? : Constraint → Option (Nat → Bool → Check)
  | minLength => some fun n trimmed => .text (.minLength n trimmed)
  | maxLength => some fun n trimmed => .text (.maxLength n trimmed)
  | minSize => some fun n _ => .array (.minSize n)
  | maxSize => some fun n _ => .array (.maxSize n)
  | size => some fun n _ => .array (.size n)
  | _ => none

/-- What may stand behind the bound: nothing, or a flag where the constraint takes one. -/
inductive ReadsFlag (c : Constraint) : List Json → Bool → Prop
  | none : ReadsFlag c [] false
  | some {b : Bool} : c.takesFlag = true → ReadsFlag c [.bool b] b

variable {c : Constraint} {mk : Nat → Bool → Check} {flag : List Json} {b : Bool} {v : Json} {n n' : Nat}

theorem sizeCheck?_injective (hc : c.sizeCheck? = some mk) (h : mk n b = mk n' b) : n = n' := by
  cases c <;> cases hc <;> cases h <;> rfl

theorem takesCount_of_readsFlag (hc : c.sizeCheck? = some mk) (hflag : c.ReadsFlag flag b) :
    c.TakesCount (v :: flag).length := by
  rw [takesCount_iff, accepts_iff]
  have harity : c.arity = 1 := by cases c <;> cases hc <;> rfl
  rw [harity]
  cases hflag with
  | none => exact Or.inl rfl
  | some h => exact Or.inr ⟨h, rfl⟩

/-- The bound is the first argument that is read, and the flag cannot fail. -/
theorem check_size [PatternEngine] (hc : c.sizeCheck? = some mk) (hflag : c.ReadsFlag flag b) (r : Rule) :
    r.check c (v :: flag) = r.size v >>= fun n => .ok (mk n b) := by
  cases hflag with
  | none => cases c <;> cases hc <;> rfl
  | some _ => cases c <;> cases hc <;> rfl

end Constraint

namespace FieldSpec

variable {c : Constraint} {mk : Nat → Bool → Check} {flag : List Json} {b : Bool} {f : FieldSpec} {p : Pipeline}

/-- A rule with a bound makes the step with this bound, and is refused for the bound. -/
theorem stepRule_size [PatternEngine] (hc : c.sizeCheck? = some mk) (hflag : c.ReadsFlag flag b) (v : Json)
    (m : String) :
    (∀ n, v.HasSize n → stepRule c.fieldType c.key (v :: flag ++ [.text m]) = .ok ⟨c.key, mk n b, m⟩) ∧
    ((¬ ∃ n, v.HasSize n) → stepRule c.fieldType c.key (v :: flag ++ [.text m]) =
      .error (.invalidArgument c.key c.fieldType "a non-negative integer")) := by
  have hname : c.fieldType.constraint? c.key = some c := FieldType.constraint?_eq_some_iff.2 ⟨rfl, rfl⟩
  rw [stepRule_concat hname (Constraint.takesCount_of_readsFlag hc hflag)]
  simp only [Constraint.check_size hc hflag]
  constructor
  · intro n hn
    rw [Rule.size_eq_ok_iff.2 (sizeOf?_eq_some_iff.2 hn)]
    rfl
  · intro hnone
    have hrefused : ArgumentKind.size.Refuses ⟨c.key, c.fieldType⟩ v
        (.invalidArgument c.key c.fieldType "a non-negative integer") :=
      (ArgumentKind.refuses_iff (by decide)).2 ⟨mt Json.isSize_iff.1 hnone, rfl⟩
    rw [Rule.size_eq_error_iff.2 hrefused]
    rfl

/-- With a bound that is a size, a declaration compiles to the step with this bound, and with anything else in its
place it is refused. -/
theorem compile_size [PatternEngine] (hc : c.sizeCheck? = some mk) (hflag : c.ReadsFlag flag b) (hp : f.compile = .ok p)
    (htype : p.type = c.fieldType) (hkey : c.key ∉ f.keys) (name : String) (v : Json) (m : String) :
    (∀ n, compileAs name (f.insert c.key (v :: flag ++ [.text m])) =
      .ok { p with steps := p.steps ++ [⟨c.key, mk n b, m⟩] } ↔ v.HasSize n) ∧
    (compileAs name (f.insert c.key (v :: flag ++ [.text m])) =
      .error ⟨name, .invalidArgument c.key c.fieldType "a non-negative integer"⟩ ↔ ¬ ∃ n, v.HasSize n) := by
  obtain ⟨hstep, hrefused⟩ := stepRule_size hc hflag v m
  have hne : c.key ≠ typeKey ∧ c.key ≠ requiredKey := by cases c <;> decide
  have hcompile : compile (f.insert c.key (v :: flag ++ [.text m])) =
      (stepRule c.fieldType c.key (v :: flag ++ [.text m])).map fun st => { p with steps := p.steps ++ [st] } := by
    rw [compile_insert_of_new hkey hne.1 hne.2, hp, ← htype]
    rfl
  have hok : ∀ n, v.HasSize n → compileAs name (f.insert c.key (v :: flag ++ [.text m])) =
      .ok { p with steps := p.steps ++ [⟨c.key, mk n b, m⟩] } := by
    intro n hn
    rw [compileAs_eq_ok_iff, hcompile, hstep n hn]
    rfl
  have herror : (¬ ∃ n, v.HasSize n) → compileAs name (f.insert c.key (v :: flag ++ [.text m])) =
      .error ⟨name, .invalidArgument c.key c.fieldType "a non-negative integer"⟩ := by
    intro hnone
    unfold compileAs
    rw [hcompile, hrefused hnone]
    rfl
  refine ⟨fun n => ⟨fun h => ?_, hok n⟩, fun h => ?_, herror⟩
  · -- a bound that is compiled is the size of the value, since the check tells the bounds apart
    by_cases hsize : ∃ n', v.HasSize n'
    · obtain ⟨n', hn'⟩ := hsize
      rw [hok n' hn'] at h
      have hsteps := List.append_cancel_left (congrArg Pipeline.steps (Except.ok.inj h))
      have hcheck : mk n' b = mk n b := congrArg Step.check (List.singleton_inj.1 hsteps)
      rw [← Constraint.sizeCheck?_injective hc hcheck]
      exact hn'
    · rw [herror hsize] at h
      cases h
  · rintro ⟨n, hn⟩
    rw [hok n hn] at h
    cases h

/-- A length bound with a point, and a text in its place. -/
theorem compile_size_sampleLength :
    compileAs "name" (Entries.ofList [(typeKey, [.text "string", .text "t"]),
        ("min", [.number (.real (.ofNat false 2)), .bool true, .text "m"])]) =
      .ok ⟨.optional, .string, [⟨typeKey, .type .string, "t"⟩, ⟨"min", .text (.minLength 2 true), "m"⟩]⟩ ∧
    compileAs "name" (Entries.ofList [(typeKey, [.text "string", .text "t"]),
        ("min", [.text "2", .bool true, .text "m"])]) =
      .error ⟨"name", .invalidArgument "min" .string "a non-negative integer"⟩ := by
  have hsize := fun v => @compile_size .minLength _ [.bool true] true
    (Entries.ofList [(typeKey, [.text "string", .text "t"])]) _ _ rfl (.some rfl) rfl rfl (by decide) "name" v "m"
  refine ⟨((hsize _).1 2).2 ⟨_, rfl, Or.inl ⟨Binary64.value_eq_natCast_iff.2 ⟨?_, ?_, ?_⟩, by decide⟩⟩,
    (hsize _).2.2 ?_⟩
  · decide
  · decide
  · decide
  · rintro ⟨n, x, hx, -⟩
    cases hx

/-- The first number of more than 64 bits is no size, and it is taken for another number. -/
theorem compile_size_of_twoPow_64 : ∃ x : Number, x.value = twoPow 64 ∧ (∀ n < twoPow 64, x.value ≠ n) ∧
    compileAs "f" (Entries.ofList [(typeKey, [.text "array", .text "t"]), ("ofSize", [.number x, .text "m"])]) =
      .ok ⟨.optional, .array,
        [⟨typeKey, .type .array, "t"⟩, ⟨"ofSize", .array (.size 18446744073709551615), "m"⟩]⟩ := by
  have hvalue : (Number.real ⟨false, 1087 * twoPow 52, by decide⟩).value = twoPow 64 :=
    Binary64.value_eq_natCast_iff.2 ⟨by decide, by decide, by decide⟩
  refine ⟨_, hvalue, fun n hn h => ?_, rfl⟩
  rw [hvalue] at h
  exact hn.ne' (Nat.cast_injective h)

end FieldSpec

end FieldRules
