import LiveText.Command.Run
import LiveText.Engine.Draws
import Std.Time.DateTime.Timestamp

/-!
# The command line program

The program reads the files that its arguments name, runs the command, and prints its text; notices
and failures go to the error output.
-/

namespace LiveText.Program

/-- Why a file cannot be read. -/
def causeOf : IO.Error → String
  | .noFileOrDirectory .. => "No such file or directory (os error 2)"
  | .permissionDenied .. => "Permission denied (os error 13)"
  | .inappropriateType .. => "Is a directory (os error 21)"
  | .userError _ => "stream did not contain valid UTF-8"
  | e => toString e

/-- The content of a file, or why it cannot be read. -/
def readText (path : String) : IO (Except String String) := do
  try
    return .ok (← IO.FS.readFile path)
  catch e =>
    return .error (causeOf e)

/-- The files at the given paths. -/
def readAll (paths : List String) : IO (List (String × Except String String)) :=
  paths.mapM fun path => do return (path, ← readText path)

/-- What the program finds around it. -/
def world (paths : List String) : IO World := do
  let files ← readAll paths
  let time ← Std.Time.Timestamp.now
  let seed ← IO.rand 0 (Nat.pow 2 62)
  return {
    file := fun path => (files.lookup path).getD (.error "No such file or directory (os error 2)")
    now := (Instant.ofMillis? time.toMillisecondsSinceUnixEpoch.val).getD ⟨0, 0⟩
    -- no table of zones is read, so local time is universal time
    host := .universal
    draw := Draws.ofSeed (UInt64.ofNat seed) }

/-- Prints how a command ends. -/
def report : Outcome → IO Unit
  | .printed text notices => do
    for n in notices do
      IO.eprintln n.message
    IO.print text
  | .brokenOff notices => do
    for n in notices do
      IO.eprintln n.message
  | .failed failure => do
    IO.eprintln ("Error: " ++ failure.message)
    IO.eprintln ("  Fix: " ++ failure.advice)
  | .misused => IO.eprint Command.usage

end LiveText.Program

/-- Runs the command of the arguments. -/
def main (args : List String) : IO UInt32 := do
  let command := LiveText.Command.ofArguments args
  let world ← LiveText.Program.world ((command.map LiveText.Command.paths).getD [])
  let outcome := LiveText.Command.runLine world args
  LiveText.Program.report outcome
  return UInt32.ofNat outcome.status
