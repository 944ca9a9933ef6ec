import CrossCheck.Host.Snapshot

/-!
# The program

Takes its arguments from the command line and the machine to run on, as a snapshot, from the
standard input.
-/

namespace CrossCheck

/-- Reads a stream to its end. -/
partial def readAll (input : IO.FS.Stream) (read : String) : IO String := do
  let line ← input.getLine
  if line.isEmpty then return read
  readAll input (read ++ line)

end CrossCheck

open CrossCheck in
/-- Runs the program. -/
def main (arguments : List String) : IO UInt32 := do
  let text ← readAll (← IO.getStdin) ""
  match Json.parse? text.toList with
  | none =>
    (← IO.getStderr).putStrLn "the standard input holds no snapshot"
    return 2
  | some j =>
    let printout := (Host.Snapshot.ofJson j).printout arguments
    (← IO.getStdout).putStr printout.stdout
    (← IO.getStderr).putStr printout.stderr
    return printout.status.toUInt32
