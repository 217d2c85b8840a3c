/-
Validating many records. Records are checked in order up to the first one at which the run stops: an
invalid record when the run is to stop at once, or the one that brings the number of errors to the
cap. A cap of zero is no cap.
-/
import FieldRules.Validation

namespace FieldRules

/-- The sum of a count over a list. -/
def sumOf {α : Type} (count : α → Nat) (l : List α) : Nat :=
  l.foldr (fun a n => count a + n) 0

/-- When a batch stops early. -/
structure BatchSettings where
  failFast : Bool
  maxErrors : Nat
deriving DecidableEq

namespace BatchSettings

def standard : BatchSettings := ⟨false, 0⟩

def shape : Json.Shape :=
  .record "ValidationConfig" false false [("fail_fast", .flag), ("max_errors", .count)]

/-- The settings in a value of the shape; missing ones are standard. -/
def ofShaped (v : Json) : BatchSettings :=
  ⟨((v.get? "fail_fast").bind Json.bool?).getD standard.failFast,
   ((v.get? "max_errors").bind Json.natural?).getD standard.maxErrors⟩

def toJson (c : BatchSettings) : Json :=
  .object [("fail_fast", .bool c.failFast), ("max_errors", .ofNat c.maxErrors)]

/-- Whether a run stops behind an invalid record, with `collected` errors so far. -/
def stops (c : BatchSettings) (collected : Nat) : Bool :=
  c.failFast || (0 < c.maxErrors && c.maxErrors ≤ collected)

end BatchSettings

/-- The errors of one invalid record with its position in the input. -/
structure RecordReport where
  index : Nat
  errors : List FieldError
deriving DecidableEq

/-- The outcome of a batch. -/
structure BatchReport where
  total : Nat
  checked : Nat
  invalid : List RecordReport
  truncated : Bool
deriving DecidableEq

namespace RecordReport

def shape : Json.Shape :=
  .record "RecordReport" true false [("index", .count), ("errors", .list FieldError.shape)]

def toJson (r : RecordReport) : Json :=
  .object [("index", .ofNat r.index), ("errors", .list (r.errors.map FieldError.toJson))]

def ofShaped (v : Json) : RecordReport :=
  ⟨((v.get? "index").bind Json.natural?).getD 0,
   (((v.get? "errors").bind Json.list?).getD []).map FieldError.ofShaped⟩

end RecordReport

namespace BatchReport

def shape : Json.Shape :=
  .record "BatchReport" true false
    [("total", .count), ("checked", .count), ("invalid", .list RecordReport.shape), ("truncated", .flag)]

/-- The members of a report as an object. -/
def members (r : BatchReport) : List (String × Json) :=
  [("total", .ofNat r.total), ("checked", .ofNat r.checked),
   ("invalid", .list (r.invalid.map RecordReport.toJson)), ("truncated", .bool r.truncated)]

def toJson (r : BatchReport) : Json :=
  .object r.members

def ofShaped (v : Json) : BatchReport :=
  let count (key : String) := ((v.get? key).bind Json.natural?).getD 0
  ⟨count "total", count "checked", (((v.get? "invalid").bind Json.list?).getD []).map RecordReport.ofShaped,
   ((v.get? "truncated").bind Json.bool?).getD false⟩

def isValid (r : BatchReport) : Bool :=
  r.invalid.isEmpty

/-- The number of field errors in all records. -/
def errorCount (r : BatchReport) : Nat :=
  sumOf (fun i => i.errors.length) r.invalid

def validCount (r : BatchReport) : Nat :=
  r.checked - r.invalid.length

end BatchReport

namespace Schema

/-- The number of records checked and the invalid ones among them, from the record at `index` on with
`collected` errors before it. -/
def runBatch (s : Schema) (c : BatchSettings) : Nat → Nat → List Json → Nat × List RecordReport
  | _, _, [] => (0, [])
  | index, collected, record :: rest =>
    let errors := s.validate record
    let sum := collected + errors.length
    let (checked, invalid) :=
      if !errors.isEmpty && c.stops sum then (0, []) else runBatch s c (index + 1) sum rest
    (checked + 1, if errors.isEmpty then invalid else ⟨index, errors⟩ :: invalid)

/-- The report of a batch. -/
def validateBatch (s : Schema) (c : BatchSettings) (records : List Json) : BatchReport :=
  let (checked, invalid) := s.runBatch c 0 0 records
  ⟨records.length, checked, invalid, decide (checked < records.length)⟩

end Schema

end FieldRules
