/-
The program at the command line. It reads the environment, the clock and the files that a run may look at,
and writes what the run leaves.
-/
import FieldRules.Command.Program
import Std.Time.DateTime

namespace FieldRules

/-- A number in at least `width` digits. -/
def zeroPadded (width n : Nat) : String :=
  let digits := Nat.toDigits 10 n
  String.ofList (List.replicate (width - digits.length) '0' ++ digits)

/-- The fraction of a second in thousandths, millionths or billionths, whichever first is exact. -/
def fractionText (nanoseconds : Nat) : String :=
  if nanoseconds = 0 then ""
  else if nanoseconds % 1000000 = 0 then "." ++ zeroPadded 3 (nanoseconds / 1000000)
  else if nanoseconds % 1000 = 0 then "." ++ zeroPadded 6 (nanoseconds / 1000)
  else "." ++ zeroPadded 9 nanoseconds

/-- A point in time, as date and time of day at Greenwich. -/
def instantText (t : Std.Time.PlainDateTime) : String :=
  let two (n : Int) := zeroPadded 2 n.toNat
  zeroPadded 4 t.year.toInt.toNat ++ "-" ++ two t.month.val ++ "-" ++ two t.day.val ++ "T" ++
    two t.hour.val ++ ":" ++ two t.minute.val ++ ":" ++ two t.second.val ++
    fractionText t.nanosecond.val.toNat ++ "+00:00"

/-- What is found under a path. -/
def fileStateAt (path : String) : IO FileState := do
  try
    match String.fromUTF8? (← IO.FS.readBinFile path) with
    | some s => return .text s
    | none => return .unreadable "stream did not contain valid UTF-8"
  catch
    | .noFileOrDirectory .. => return .missing
    | .permissionDenied _ code details | .inappropriateType _ code details | .otherError code details =>
      return .unreadable (details ++ " (os error " ++ toString code ++ ")")
    | e => return .unreadable e.toString

/-- The surroundings in which the program is started. -/
def surroundings (args : List String) : IO Surroundings := do
  let known ← variableNames.mapM fun name => return (name, ← IO.getEnv name)
  let env : Variables := fun name => (known.lookup name).join
  let files ← (pathsOf env args).mapM fun path => return (path, ← fileStateAt path)
  let now := (Std.Time.DateTime.ofTimestampWithZone (← Std.Time.Timestamp.now) .UTC).toPlainDateTime
  return ⟨env, fun path => (files.lookup path).getD .missing, instantText now, ← (← IO.getStdout).isTty⟩

end FieldRules

def main (args : List String) : IO UInt32 := do
  let o := FieldRules.runProgram (← FieldRules.surroundings args) args
  (← IO.getStdout).putStr o.output
  (← IO.getStderr).putStr o.errors
  return o.exitCode.toUInt32
