import ApiStubs.Command

/-!
# The program

The command on the files of the machine.
-/

namespace ApiStubs

/-- The files of the machine. A file or directory is there if it can be opened. -/
def machineFiles : FileAccess IO where
  isThere path := do
    try
      let _ ← IO.FS.Handle.mk path .read
      return true
    catch _ => return false
  read? path := do
    try return some (← IO.FS.readFile path)
    catch _ => return none
  write path text := do
    try
      IO.FS.writeFile path text
      return true
    catch _ => return false

end ApiStubs

open ApiStubs in
/-- Runs the command in the working directory. -/
def main (arguments : List String) : IO UInt32 := do
  let directory ← IO.currentDir
  let outcome ← perform machineFiles directory.toString arguments
  IO.print outcome.output
  if outcome.report != "" then IO.eprintln outcome.report
  return outcome.status
