/-
The trace of a batch report: the number of errors of each record checked, in order, as the report tells it.
It is the beginning of the list of these numbers for all records (`trace_validateBatch`), and without
fail-fast it goes at least to the record that brings the errors to the cap (`trace_of_split`).
-/
import FieldRules.Proofs.Batch.Exact

namespace FieldRules

/-- The number of errors reported for the record at a position. -/
def errorsAt (reports : List RecordReport) (i : Nat) : Nat :=
  sumOf (fun r => r.errors.length) (reports.filter fun r => r.index = i)

/-- The number of errors of each record checked. -/
def BatchReport.trace (r : BatchReport) : List Nat :=
  (List.range r.checked).map (errorsAt r.invalid)

theorem errorsAt_append (l l' : List RecordReport) (i : Nat) :
    errorsAt (l ++ l') i = errorsAt l i + errorsAt l' i := by
  unfold errorsAt
  rw [List.filter_append, sumOf_append]

namespace Schema

variable {s : Schema} {c : BatchSettings} {i : Nat} {record : Json} {done rest records : List Json}

/-- The number of errors of each record. -/
def errorCounts (s : Schema) (records : List Json) : List Nat :=
  records.map fun r => (s.validate r).length

theorem errorCounts_append (l l' : List Json) : s.errorCounts (l ++ l') = s.errorCounts l ++ s.errorCounts l' :=
  List.map_append

theorem errorCounts_eq_nil_iff : s.errorCounts records = [] ↔ records = [] :=
  List.map_eq_nil_iff

theorem sumOf_errorCounts : sumOf id (s.errorCounts records) = s.errorsIn records := by
  induction records with
  | nil => rfl
  | cons r rest ih => exact congrArg ((s.validate r).length + ·) ih

theorem errorsIn_append (l l' : List Json) : s.errorsIn (l ++ l') = s.errorsIn l + s.errorsIn l' :=
  sumOf_append l l'

theorem errorsIn_take_le (n : Nat) : s.errorsIn (records.take n) ≤ s.errorsIn records := by
  conv => rhs; rw [← List.take_append_drop n records, errorsIn_append]
  exact Nat.le_add_right ..

theorem errorsIn_take_mono {m n : Nat} (h : m ≤ n) : s.errorsIn (records.take m) ≤ s.errorsIn (records.take n) := by
  have htake : (records.take n).take m = records.take m := by rw [List.take_take, Nat.min_eq_left h]
  rw [← htake]
  exact errorsIn_take_le m

/-! ## The errors at a position -/

theorem errorsAt_of_lt {index : Nat} (h : i < index) : errorsAt (s.invalidFrom index records) i = 0 := by
  have hnone : (s.invalidFrom index records).filter (fun r => r.index = i) = [] := by
    refine List.filter_eq_nil_iff.2 fun r hr => ?_
    have hle := le_index_of_mem hr
    rw [decide_eq_true_iff]
    omega
  unfold errorsAt
  rw [hnone]
  rfl

theorem errorsAt_self (index : Nat) : errorsAt (s.invalidFrom index [record]) index = (s.validate record).length := by
  have hall : (s.invalidFrom index [record]).filter (fun r => r.index = index) = s.invalidFrom index [record] := by
    cases h : s.isValid record with
    | true => rw [invalidFrom_of_valid h]; rfl
    | false => rw [invalidFrom_of_invalid h]; simp
  unfold errorsAt
  rw [hall, errors_invalidFrom]
  rfl

theorem errorsAt_of_gt {index : Nat} (h : index < i) : errorsAt (s.invalidFrom index [record]) i = 0 := by
  cases hvalid : s.isValid record with
  | true => rw [invalidFrom_of_valid hvalid]; rfl
  | false =>
    have hne : index ≠ i := by omega
    rw [invalidFrom_of_invalid hvalid]
    simp [errorsAt, hne, sumOf]

theorem map_errorsAt (index : Nat) :
    (List.range' index records.length).map (errorsAt (s.invalidFrom index records)) = s.errorCounts records := by
  induction records generalizing index with
  | nil => rfl
  | cons r rest ih =>
    rw [List.length_cons, List.range'_succ, List.map_cons, invalidFrom_cons, errorsAt_append, errorsAt_self,
      errorsAt_of_lt (Nat.lt_succ_self index), Nat.add_zero]
    show _ :: _ = _ :: s.errorCounts rest
    rw [← ih (index + 1)]
    congr 1
    -- at the later positions the first record counts for nothing
    refine List.map_congr_left fun i hi => ?_
    have hle := (List.mem_range'_1.1 hi).1
    rw [errorsAt_append, errorsAt_of_gt hle, Nat.zero_add]

/-! ## The trace of a batch -/

/-- The trace tells the errors of the records checked. -/
theorem trace_validateBatch : (s.validateBatch c records).trace =
    s.errorCounts (records.take (s.validateBatch c records).checked) := by
  have hle : (s.validateBatch c records).checked ≤ records.length := runBatch_checked_le 0
  rw [← map_errorsAt 0, List.length_take, Nat.min_eq_left hle, ← (validateBatch_describes s c records).invalid_eq,
    BatchReport.trace, List.range_eq_range']

/-! ## The cap -/

theorem not_stopsAt_of_lt (hfail : c.failFast = false) (h : s.errorsIn (records.take (i + 1)) < c.maxErrors) :
    ¬ s.StopsAt c 0 records i := by
  rintro ⟨_, _, _, hstop | ⟨_, hstop⟩⟩
  · rw [hfail] at hstop; cases hstop
  · omega

/-- A record behind fewer errors than the cap is checked. -/
theorem lt_checked_of_lt {n : Nat} (hfail : c.failFast = false) (h : s.errorsIn (records.take n) < c.maxErrors)
    (hn : n < records.length) : n < (s.validateBatch c records).checked := by
  have hdescribes := validateBatch_describes s c records
  by_cases hstop : ∃ i, s.StopsFirstAt c 0 records i
  · obtain ⟨i, hi⟩ := hstop
    have hle : n ≤ i := by
      by_contra hlt
      exact not_stopsAt_of_lt hfail (Nat.lt_of_le_of_lt (errorsIn_take_mono (by omega)) h) hi.1
    rw [hdescribes.checked_of_stop i hi]
    exact Nat.lt_succ_of_le hle
  · push Not at hstop
    rwa [hdescribes.checked_of_no_stop hstop]

/-- Records with fewer errors than the cap are all checked. -/
theorem trace_of_lt (hfail : c.failFast = false) (h : s.errorsIn records < c.maxErrors) :
    (s.validateBatch c records).trace = s.errorCounts records := by
  have hall : (s.validateBatch c records).checked = records.length :=
    runBatch_checked_of_no_stop
      (fun i => not_stopsAt_of_lt hfail (Nat.lt_of_le_of_lt (errorsIn_take_le (i + 1)) h)) 0
  rw [trace_validateBatch, hall, List.take_length]

/-- The record with which the errors reach the cap is the last one checked. -/
theorem checked_of_split (hfail : c.failFast = false) (hdone : s.errorsIn done < c.maxErrors)
    (hcap : c.maxErrors ≤ s.errorsIn (done ++ [record])) :
    (s.validateBatch c (done ++ record :: rest)).checked = done.length + 1 := by
  have hupto : (done ++ record :: rest).take (done.length + 1) = done ++ [record] := by
    rw [List.take_length_add_append, List.take_succ_cons, List.take_zero]
  have herrors : s.validate record ≠ [] := by
    intro hnil
    have hnone : s.errorsIn [record] = 0 := congrArg List.length hnil
    rw [errorsIn_append, hnone] at hcap
    omega
  refine (validateBatch_describes s c _).checked_of_stop _ ⟨⟨record, by simp, herrors, Or.inr ⟨by omega, ?_⟩⟩, ?_⟩
  · rwa [hupto, Nat.zero_add]
  · intro j hj
    refine not_stopsAt_of_lt hfail (Nat.lt_of_le_of_lt (errorsIn_take_mono hj) ?_)
    rwa [List.take_left]

/-- A record behind fewer errors than the cap is in the trace, and it is the last one there exactly when no
other follows or the errors reach the cap with it. -/
theorem trace_of_split (record : Json) (rest : List Json) (hfail : c.failFast = false)
    (hdone : s.errorsIn done < c.maxErrors) :
    ∃ more, (s.validateBatch c (done ++ record :: rest)).trace = s.errorCounts (done ++ [record]) ++ more ∧
      (more = [] ↔ rest = [] ∨ c.maxErrors ≤ s.errorsIn (done ++ [record])) := by
  have hsplit : done ++ record :: rest = (done ++ [record]) ++ rest := List.append_cons ..
  have hlength : (done ++ [record]).length = done.length + 1 := List.length_append
  have hchecked : done.length < (s.validateBatch c (done ++ record :: rest)).checked := by
    refine lt_checked_of_lt hfail ?_ (by simp)
    rwa [List.take_left]
  refine ⟨s.errorCounts (rest.take ((s.validateBatch c (done ++ record :: rest)).checked - (done.length + 1))),
    ?_, ?_⟩
  · rw [trace_validateBatch, ← errorCounts_append]
    generalize (s.validateBatch c (done ++ record :: rest)).checked = n at hchecked
    rw [hsplit, List.take_append, hlength, List.take_of_length_le (by omega)]
  · rw [errorCounts_eq_nil_iff, List.take_eq_nil_iff]
    constructor
    · rintro (hzero | hnil)
      · -- below the cap the record behind this one would be checked as well
        by_contra hgoes
        rw [not_or] at hgoes
        have hpos := List.length_pos_of_ne_nil hgoes.1
        have hnext : done.length + 1 < (s.validateBatch c (done ++ record :: rest)).checked := by
          refine lt_checked_of_lt hfail ?_ ?_
          · rw [hsplit, ← hlength, List.take_left]
            exact Nat.lt_of_not_le hgoes.2
          · rw [hsplit, List.length_append, hlength]
            omega
        omega
      · exact Or.inl hnil
    · rintro (hnil | hcap)
      · exact Or.inr hnil
      · exact Or.inl (by rw [checked_of_split hfail hdone hcap, Nat.sub_self])

end Schema

end FieldRules
