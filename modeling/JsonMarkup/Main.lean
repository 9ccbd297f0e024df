import JsonMarkup.Cli.Run

/-!
# The command line
-/

namespace JsonMarkup.Cli

/-- The files and standard input of the machine. -/
def machine : Host IO where
  readFile path := do
    try return some (← IO.FS.readFile path) catch _ => return none
  readInput := do
    try return some (← (← IO.getStdin).readToEnd) catch _ => return none
  writeFile path text := do
    try IO.FS.writeFile path text; return true catch _ => return false

end JsonMarkup.Cli

open JsonMarkup.Cli

def main (args : List String) : IO UInt32 := do
  let report ← answer machine args
  IO.print report.output
  if let some warning := report.warning? then IO.eprintln warning
  match report.status with
  | .success => pure ()
  | .failed cause => IO.eprintln ("Error: " ++ cause.message)
  | .misused cause => IO.eprintln ("error: " ++ cause.message)
  return report.exitCode.toUInt32
