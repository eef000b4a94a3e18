import ProgressTable.CommandLine.Run

/-!
# The program

Runs the command line on the files of the machine.
-/

namespace ProgressTable.CommandLine

/-- Why the machine could not read or write a file. -/
def machineError : IO.Error → FileError
  | .noFileOrDirectory .. => .notFound
  | .inappropriateType _ 20 _ => .notDirectory
  | .inappropriateType .. => .isDirectory
  | .invalidArgument _ 36 _ => .nameTooLong
  | .userError _ => .denied "stream did not contain valid UTF-8".toList
  | e => .denied (toString e).toList

/-- The files of the machine. -/
def machine : Host IO where
  workingDirectory := do pure (← IO.currentDir).toString.toList
  read path := do
    try
      pure (.ok (← IO.FS.readFile (String.ofList path)).toList)
    catch e => pure (.error (machineError e))
  write path contents := do
    try
      IO.FS.writeFile (String.ofList path) (String.ofList contents)
      pure (.ok ())
    catch e => pure (.error (machineError e))

end ProgressTable.CommandLine

/-- Runs the command line, prints what it comes to, and exits with its code. -/
def main (args : List String) : IO UInt32 := do
  let ending ← ProgressTable.CommandLine.run ProgressTable.CommandLine.machine
    (args.map String.toList)
  IO.print (String.ofList ending.stdout)
  IO.eprint (String.ofList ending.stderr)
  pure (UInt32.ofNat ending.code)
