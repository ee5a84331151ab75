import Tint.CommandLine.Run

/-!
# The program

Connects a run to the disk, the standard streams and the environment.
-/

open Tint Tint.CommandLine

/-- The number of a system error, which can be given with a minus. -/
def errorNumber (code : UInt32) : UInt32 :=
  min code (0 - code)

/-- The cause of a failure to read. -/
def fileErrorOf : IO.Error → FileError
  | .noFileOrDirectory _ _ _ => .notFound
  | .inappropriateType _ code _ => if errorNumber code == 21 then .isDirectory else .notDirectory
  | .invalidArgument _ code details =>
      if errorNumber code == 36 then .nameTooLong else .other details
  | error => .other (toString error)

/-- Reads bytes, with failures as values. -/
def attempt (read : IO ByteArray) : IO (Except FileError ByteArray) := do
  try
    return .ok (← read)
  catch error =>
    return .error (fileErrorOf error)

/-- Runs the program with its arguments and gives its exit code. -/
def main (arguments : List String) : IO UInt32 := do
  let host : Host IO :=
    { home := ← IO.getEnv "HOME"
      readFile := fun path => attempt (IO.FS.readBinFile path)
      readInput := do
        let input ← IO.getStdin
        attempt input.readBinToEnd }
  let outcome ← run host arguments
  let output ← IO.getStdout
  output.putStr outcome.output
  output.flush
  let diagnostics ← IO.getStderr
  diagnostics.putStr outcome.diagnostics
  return if outcome.exitCode == 0 then 0 else 1
