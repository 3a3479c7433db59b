import CivilRange.CommandLine.Report
import Std.Time.DateTime.Timestamp

set_option autoImplicit false

namespace CivilRange

def momentOfUnix? (seconds : Int) : Option Moment :=
  (Reading.ofMicros? (unixEpochDay * microsPerDay + microsOfSeconds seconds)).map fun reading =>
    ⟨reading, false, some (.fixed 0)⟩

end CivilRange

open CivilRange CommandLine in
def main (arguments : List String) : IO UInt32 := do
  let environment ← IO.getEnv "DATESLICE_TZ"
  let seconds := (← Std.Time.Timestamp.now).toSecondsSinceUnixEpoch.val
  match momentOfUnix? seconds with
  | none =>
    IO.eprintln RangeFault.instant.message
    return 1
  | some now =>
    let r := report arguments environment fun _ => now
    IO.print (Report.linesText r.output)
    IO.eprint (Report.linesText r.errors)
    match r.exit with
    | .code code => return code.toUInt32
    | .escaped fault =>
      IO.eprintln fault.message
      return 1
