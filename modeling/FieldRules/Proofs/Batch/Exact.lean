/-
What a batch report says. A run goes up to the stopping record, the first invalid one at which the run is to
stop at once or the errors so far reach the cap; without one it goes to the end. The report lists the invalid
records among those checked, each at its position with its errors. All of that is `BatchReport.Describes`;
`validateBatch_exact` adds what follows from it.

A run is taken apart by its first record alone, `runBatch_of_stop` and `runBatch_of_not_stop`; every other
statement on runs is an induction with these two cases.
-/
import FieldRules.Batch
import Mathlib.Data.List.Basic

namespace FieldRules

/-! ## Counting -/

section
variable {α : Type} {count : α → Nat}

theorem sumOf_cons (a : α) (l : List α) : sumOf count (a :: l) = count a + sumOf count l :=
  rfl

theorem sumOf_append (l l' : List α) : sumOf count (l ++ l') = sumOf count l + sumOf count l' := by
  induction l with
  | nil => exact (Nat.zero_add _).symm
  | cons a l ih => rw [List.cons_append, sumOf_cons, sumOf_cons, ih, Nat.add_assoc]

end

theorem BatchSettings.stops_iff {c : BatchSettings} {n : Nat} :
    c.stops n = true ↔ c.failFast = true ∨ 0 < c.maxErrors ∧ c.maxErrors ≤ n := by
  simp [stops]

namespace Schema

variable {s : Schema} {c : BatchSettings} {collected i : Nat} {record : Json} {rest records : List Json}

theorem isValid_iff : s.isValid record = true ↔ s.validate record = [] :=
  List.isEmpty_iff

/-- A record has at most one error for each field. -/
theorem length_validate_le : (s.validate record).length ≤ s.length :=
  List.length_filterMap_le ..

/-- The number of errors of the records. -/
def errorsIn (s : Schema) (records : List Json) : Nat :=
  sumOf (fun r => (s.validate r).length) records

/-! ## Reports on invalid records -/

/-- The reports on the invalid ones of the records, which stand at `index` and behind. -/
def invalidFrom (s : Schema) (index : Nat) (records : List Json) : List RecordReport :=
  (records.zipIdx index).filterMap fun (r, i) => if s.isValid r then none else some ⟨i, s.validate r⟩

theorem invalidFrom_of_valid (h : s.isValid record = true) (index : Nat) : s.invalidFrom index [record] = [] := by
  simp [invalidFrom, h]

theorem invalidFrom_of_invalid (h : s.isValid record = false) (index : Nat) :
    s.invalidFrom index [record] = [⟨index, s.validate record⟩] := by
  simp [invalidFrom, h]

theorem invalidFrom_cons (index : Nat) :
    s.invalidFrom index (record :: rest) = s.invalidFrom index [record] ++ s.invalidFrom (index + 1) rest := by
  unfold invalidFrom
  rw [List.zipIdx_cons, List.zipIdx_singleton, ← List.singleton_append, List.filterMap_append]

theorem invalidFrom_append (index : Nat) (l l' : List Json) :
    s.invalidFrom index (l ++ l') = s.invalidFrom index l ++ s.invalidFrom (index + l.length) l' := by
  unfold invalidFrom
  rw [List.zipIdx_append, List.filterMap_append]

theorem invalidFrom_eq_nil_iff {index : Nat} :
    s.invalidFrom index records = [] ↔ ∀ r ∈ records, s.isValid r = true := by
  induction records generalizing index with
  | nil => simp [invalidFrom]
  | cons r rest ih =>
    rw [invalidFrom_cons, List.append_eq_nil_iff, ih, List.forall_mem_cons]
    cases h : s.isValid r with
    | true => simp [invalidFrom_of_valid h]
    | false => simp [invalidFrom_of_invalid h]

theorem le_index_of_mem {index : Nat} {r : RecordReport} (h : r ∈ s.invalidFrom index records) :
    index ≤ r.index := by
  obtain ⟨⟨v, i⟩, hmem, heq⟩ := List.mem_filterMap.1 h
  have hle := (List.mem_zipIdx hmem).1
  dsimp only at heq
  split at heq
  · cases heq
  · cases heq; exact hle

/-- The positions increase. -/
theorem pairwise_invalidFrom (index : Nat) :
    ((s.invalidFrom index records).map RecordReport.index).Pairwise (· < ·) := by
  induction records generalizing index with
  | nil => exact List.Pairwise.nil
  | cons r rest ih =>
    rw [invalidFrom_cons]
    cases h : s.isValid r with
    | true => rw [invalidFrom_of_valid h]; exact ih (index + 1)
    | false =>
      rw [invalidFrom_of_invalid h]
      refine List.pairwise_cons.2 ⟨fun j hj => ?_, ih (index + 1)⟩
      obtain ⟨r', hr', rfl⟩ := List.mem_map.1 hj
      exact le_index_of_mem hr'

theorem length_invalidFrom (index : Nat) :
    (s.invalidFrom index records).length + records.countP s.isValid = records.length := by
  induction records generalizing index with
  | nil => rfl
  | cons r rest ih =>
    have hrest := ih (index + 1)
    rw [invalidFrom_cons, List.length_append, List.countP_cons, List.length_cons]
    cases h : s.isValid r with
    | true => rw [invalidFrom_of_valid h, if_pos rfl, List.length_nil]; omega
    | false => rw [invalidFrom_of_invalid h, if_neg Bool.false_ne_true, List.length_singleton]; omega

/-- The reports on the records hold all their errors. -/
theorem errors_invalidFrom (index : Nat) :
    sumOf (fun r => r.errors.length) (s.invalidFrom index records) = s.errorsIn records := by
  induction records generalizing index with
  | nil => rfl
  | cons r rest ih =>
    rw [invalidFrom_cons, sumOf_append, ih, errorsIn, errorsIn, sumOf_cons]
    congr 1
    cases h : s.isValid r with
    | true => rw [invalidFrom_of_valid h, isValid_iff.1 h]; rfl
    | false => rw [invalidFrom_of_invalid h]; rfl

/-! ## The stopping record -/

/-- Whether a run with `collected` errors before the records is to stop behind the one at position `i`. -/
def StopsAt (s : Schema) (c : BatchSettings) (collected : Nat) (records : List Json) (i : Nat) : Prop :=
  ∃ record, records[i]? = some record ∧ s.validate record ≠ [] ∧
    (c.failFast = true ∨ 0 < c.maxErrors ∧ c.maxErrors ≤ collected + s.errorsIn (records.take (i + 1)))

/-- Whether the stopping record stands at position `i`. -/
def StopsFirstAt (s : Schema) (c : BatchSettings) (collected : Nat) (records : List Json) (i : Nat) : Prop :=
  s.StopsAt c collected records i ∧ ∀ j < i, ¬ s.StopsAt c collected records j

theorem stopsAt_zero_iff : s.StopsAt c collected (record :: rest) 0 ↔
    s.validate record ≠ [] ∧ c.stops (collected + (s.validate record).length) = true := by
  have herrors : s.errorsIn [record] = (s.validate record).length := rfl
  rw [StopsAt, BatchSettings.stops_iff]
  simp [herrors]

theorem stopsAt_succ_iff : s.StopsAt c collected (record :: rest) (i + 1) ↔
    s.StopsAt c (collected + (s.validate record).length) rest i := by
  have herrors : s.errorsIn ((record :: rest).take (i + 2)) =
      (s.validate record).length + s.errorsIn (rest.take (i + 1)) := rfl
  rw [StopsAt, StopsAt, List.getElem?_cons_succ, herrors, Nat.add_assoc]

theorem exists_stopsFirstAt (h : s.StopsAt c collected records i) :
    ∃ j, s.StopsFirstAt c collected records j := by
  induction i using Nat.strongRecOn with
  | ind i ih =>
    by_cases hfirst : ∀ j < i, ¬ s.StopsAt c collected records j
    · exact ⟨i, h, hfirst⟩
    · push Not at hfirst
      obtain ⟨j, hj, hstop⟩ := hfirst
      exact ih j hj hstop

theorem not_stopsAt_standard : ¬ s.StopsAt .standard collected records i := by
  rintro ⟨_, _, _, h | ⟨h, _⟩⟩
  · cases h
  · exact Nat.lt_irrefl 0 h

/-! ## Runs -/

/-- A run stops behind its first record. -/
theorem runBatch_of_stop (h : s.StopsAt c collected (record :: rest) 0) (index : Nat) :
    s.runBatch c index collected (record :: rest) = (1, s.invalidFrom index [record]) := by
  obtain ⟨herrors, hstops⟩ := stopsAt_zero_iff.1 h
  have hinvalid : (s.validate record).isEmpty = false := List.isEmpty_eq_false_iff.2 herrors
  rw [invalidFrom_of_invalid hinvalid, runBatch]
  simp [hinvalid, hstops]

/-- A run goes on behind its first record. -/
theorem runBatch_of_not_stop (h : ¬ s.StopsAt c collected (record :: rest) 0) (index : Nat) :
    s.runBatch c index collected (record :: rest) =
      let run := s.runBatch c (index + 1) (collected + (s.validate record).length) rest
      (run.1 + 1, s.invalidFrom index [record] ++ run.2) := by
  rw [stopsAt_zero_iff] at h
  rw [runBatch]
  cases hvalid : (s.validate record).isEmpty with
  | true => rw [invalidFrom_of_valid hvalid]; rfl
  | false =>
    have hgoes : c.stops (collected + (s.validate record).length) = false :=
      Bool.eq_false_iff.2 fun hstops => h ⟨List.isEmpty_eq_false_iff.1 hvalid, hstops⟩
    rw [invalidFrom_of_invalid hvalid, hgoes]
    rfl

theorem runBatch_checked_of_stop (h : s.StopsFirstAt c collected records i) (index : Nat) :
    (s.runBatch c index collected records).1 = i + 1 := by
  induction records generalizing index collected i with
  | nil => obtain ⟨⟨_, hnil, _⟩, _⟩ := h; cases hnil
  | cons record rest ih =>
    obtain ⟨hstop, hfirst⟩ := h
    cases i with
    | zero => rw [runBatch_of_stop hstop]
    | succ i =>
      rw [runBatch_of_not_stop (hfirst 0 (Nat.succ_pos i))]
      have hrest : s.StopsFirstAt c (collected + (s.validate record).length) rest i :=
        ⟨stopsAt_succ_iff.1 hstop, fun j hj hj' => hfirst (j + 1) (Nat.succ_lt_succ hj) (stopsAt_succ_iff.2 hj')⟩
      exact congrArg (· + 1) (ih hrest (index + 1))

theorem runBatch_checked_of_no_stop (h : ∀ i, ¬ s.StopsAt c collected records i) (index : Nat) :
    (s.runBatch c index collected records).1 = records.length := by
  induction records generalizing index collected with
  | nil => rfl
  | cons record rest ih =>
    rw [runBatch_of_not_stop (h 0)]
    exact congrArg (· + 1) (ih (fun i hi => h (i + 1) (stopsAt_succ_iff.2 hi)) (index + 1))

theorem runBatch_checked_le (index : Nat) : (s.runBatch c index collected records).1 ≤ records.length := by
  induction records generalizing index collected with
  | nil => exact Nat.le_refl 0
  | cons record rest ih =>
    by_cases h : s.StopsAt c collected (record :: rest) 0
    · rw [runBatch_of_stop h]; exact Nat.succ_le_succ (Nat.zero_le _)
    · rw [runBatch_of_not_stop h]; exact Nat.succ_le_succ (ih (index + 1))

/-- A run reports on the invalid ones of the records that it checks. -/
theorem runBatch_invalid (index : Nat) : (s.runBatch c index collected records).2 =
    s.invalidFrom index (records.take (s.runBatch c index collected records).1) := by
  induction records generalizing index collected with
  | nil => rfl
  | cons record rest ih =>
    by_cases h : s.StopsAt c collected (record :: rest) 0
    · rw [runBatch_of_stop h]; rfl
    · rw [runBatch_of_not_stop h]
      rw [List.take_succ_cons]
      refine Eq.trans ?_ (invalidFrom_cons index).symm
      exact congrArg _ (ih (index + 1))

/-- A run finds an invalid record whenever there is one. -/
theorem runBatch_invalid_eq_nil_iff (index : Nat) :
    (s.runBatch c index collected records).2 = [] ↔ ∀ r ∈ records, s.isValid r = true := by
  induction records generalizing index collected with
  | nil => simp [runBatch]
  | cons record rest ih =>
    rw [List.forall_mem_cons]
    by_cases h : s.StopsAt c collected (record :: rest) 0
    · have hinvalid : ¬ s.isValid record = true := fun hvalid => (stopsAt_zero_iff.1 h).1 (isValid_iff.1 hvalid)
      rw [runBatch_of_stop h, invalidFrom_eq_nil_iff, List.forall_mem_singleton]
      exact ⟨fun hvalid => (hinvalid hvalid).elim, And.left⟩
    · rw [runBatch_of_not_stop h, List.append_eq_nil_iff, invalidFrom_eq_nil_iff, List.forall_mem_singleton, ih]

/-- A run collects fewer errors than the cap before its last record, and at most one for each field on it. -/
theorem runBatch_errors_le (h : collected < c.maxErrors) (index : Nat) :
    collected + sumOf (fun r => r.errors.length) (s.runBatch c index collected records).2 ≤
      c.maxErrors - 1 + s.length := by
  induction records generalizing index collected with
  | nil => show collected + 0 ≤ _; omega
  | cons record rest ih =>
    have hfields : (s.validate record).length ≤ s.length := length_validate_le
    have herrors : s.errorsIn [record] = (s.validate record).length := rfl
    by_cases hstop : s.StopsAt c collected (record :: rest) 0
    · rw [runBatch_of_stop hstop, errors_invalidFrom, herrors]
      omega
    · -- a record that brings the errors to the cap has some of its own, so the run would stop behind it
      have hless : collected + (s.validate record).length < c.maxErrors := by
        by_contra hge
        have hnonempty : s.validate record ≠ [] := by
          intro hnil
          rw [hnil, List.length_nil] at hge
          exact hge h
        exact hstop (stopsAt_zero_iff.2
          ⟨hnonempty, BatchSettings.stops_iff.2 (Or.inr ⟨by omega, by omega⟩)⟩)
      have hrest := ih hless (index + 1)
      rw [runBatch_of_not_stop hstop, sumOf_append, errors_invalidFrom, herrors]
      omega

end Schema

/-! ## Reports -/

/-- What a report says of a run over all the records. -/
structure BatchReport.Describes (r : BatchReport) (s : Schema) (c : BatchSettings) (records : List Json) :
    Prop where
  total_eq : r.total = records.length
  checked_of_stop : ∀ i, s.StopsFirstAt c 0 records i → r.checked = i + 1
  checked_of_no_stop : (∀ i, ¬ s.StopsFirstAt c 0 records i) → r.checked = r.total
  truncated_eq : r.truncated = decide (r.checked < r.total)
  invalid_eq : r.invalid = s.invalidFrom 0 (records.take r.checked)

/-- A report that describes its run, with what follows from that: positions increase, a cap only cuts the end
off, the verdict does not depend on the settings, the counts agree, and the errors overshoot the cap by less
than the number of fields. -/
structure BatchReport.Exact (r : BatchReport) (s : Schema) (c : BatchSettings) (records : List Json) :
    Prop extends r.Describes s c records where
  increasing : (r.invalid.map RecordReport.index).Pairwise (· < ·)
  invalid_prefix : r.invalid <+: (s.validateBatch .standard records).invalid
  isValid_eq : ∀ c', (s.validateBatch c' records).isValid = r.isValid
  invalid_le : r.invalid.length ≤ r.checked
  validCount_eq : r.validCount = (records.take r.checked).countP s.isValid
  errorCount_le : 0 < c.maxErrors → r.errorCount ≤ c.maxErrors - 1 + s.length

namespace Schema

variable (s : Schema) (c : BatchSettings) (records : List Json)

theorem validateBatch_describes : (s.validateBatch c records).Describes s c records where
  total_eq := rfl
  checked_of_stop _ h := runBatch_checked_of_stop h 0
  checked_of_no_stop h := by
    refine runBatch_checked_of_no_stop (fun i hi => ?_) 0
    obtain ⟨j, hj⟩ := exists_stopsFirstAt hi
    exact h j hj
  truncated_eq := rfl
  invalid_eq := runBatch_invalid 0

/-- Without a cap every record is reported on. -/
theorem validateBatch_standard_invalid :
    (s.validateBatch .standard records).invalid = s.invalidFrom 0 records := by
  have hall : (s.validateBatch .standard records).checked = records.length :=
    runBatch_checked_of_no_stop (fun _ => not_stopsAt_standard) 0
  rw [(validateBatch_describes s .standard records).invalid_eq, hall, List.take_length]

theorem validateBatch_invalid_prefix :
    (s.validateBatch c records).invalid <+: (s.validateBatch .standard records).invalid := by
  rw [validateBatch_standard_invalid, (validateBatch_describes s c records).invalid_eq]
  conv => rhs; rw [← List.take_append_drop (s.validateBatch c records).checked records, invalidFrom_append]
  exact List.prefix_append _ _

theorem validateBatch_isValid : (s.validateBatch c records).isValid = records.all s.isValid := by
  rw [Bool.eq_iff_iff, List.all_eq_true]
  exact List.isEmpty_iff.trans (runBatch_invalid_eq_nil_iff 0)

/-- The invalid records and the valid ones add up to those checked. -/
theorem length_invalid_add : (s.validateBatch c records).invalid.length +
    (records.take (s.validateBatch c records).checked).countP s.isValid =
      (s.validateBatch c records).checked := by
  have hle : (s.validateBatch c records).checked ≤ records.length := runBatch_checked_le 0
  rw [(validateBatch_describes s c records).invalid_eq, length_invalidFrom, List.length_take,
    Nat.min_eq_left hle]

/-- Reports are exact. -/
theorem validateBatch_exact : (s.validateBatch c records).Exact s c records where
  toDescribes := validateBatch_describes s c records
  increasing := by
    rw [(validateBatch_describes s c records).invalid_eq]
    exact pairwise_invalidFrom 0
  invalid_prefix := validateBatch_invalid_prefix s c records
  isValid_eq c' := by rw [validateBatch_isValid, validateBatch_isValid]
  invalid_le := Nat.le.intro (length_invalid_add s c records)
  validCount_eq := Nat.sub_eq_of_eq_add' (length_invalid_add s c records).symm
  errorCount_le hcap := by
    have hbound : 0 + (s.validateBatch c records).errorCount ≤ c.maxErrors - 1 + s.length :=
      runBatch_errors_le hcap 0
    rwa [Nat.zero_add] at hbound

end Schema

end FieldRules
