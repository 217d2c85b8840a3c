/-
The command that validates files. The inputs are taken in order up to the first one that does not load
or, when the run is to stop at once, the first one with an invalid record; later inputs count for nothing.
The cap on errors holds for each input of its own.
-/
import FieldRules.Command.Document
import FieldRules.Report.Run

namespace FieldRules

/-- An input file: its path, and its records if it loads. -/
structure Input where
  path : String
  records : Except CommandError (List Json)

/-- The report on one input. -/
def FileReport.ofRecords (path : String) (records : List Json) (batch : BatchReport) (echo : Bool) : FileReport :=
  ⟨path, batch, if echo then echoInvalid records batch else []⟩

/-- The reports on the inputs taken, and whether the run stopped at an invalid one. -/
structure FileRun where
  files : List FileReport
  stopped : Bool

namespace Schema

/-- Validates inputs in order. -/
def validateInputs (s : Schema) (c : BatchSettings) (echo : Bool) : List Input → Except CommandError FileRun
  | [] => .ok ⟨[], false⟩
  | input :: rest => do
    let records ← input.records
    let batch := s.validateBatch c records
    let file := FileReport.ofRecords input.path records batch echo
    if c.failFast && !batch.isValid then .ok ⟨[file], true⟩
    else
      let run ← validateInputs s c echo rest
      .ok ⟨file :: run.files, run.stopped⟩

end Schema

/-- The settings of a run: flags and numbers on the command line count more than those of the file. -/
def BatchSettings.override (c : BatchSettings) (failFast : Bool) (maxErrors : Option Nat) : BatchSettings :=
  ⟨failFast || c.failFast, maxErrors.getD c.maxErrors⟩

/-- The failure of a run that found an invalid record. -/
def RunReport.verdict (r : RunReport) : Except CommandError Unit :=
  if r.isValid then .ok () else .error (.validationFailed r.invalidCount r.checkedCount)

end FieldRules
