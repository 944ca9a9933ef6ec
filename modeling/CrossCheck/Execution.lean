import CrossCheck.Extract
import CrossCheck.Text.Line

/-!
# Executions

What a program leaves that ran to its end. Its two streams are read line by line into one output, in
the order in which the lines arrive. The lines of each stream keep their order in it; a stream that
cannot be read to its end makes the output worthless.
-/

namespace CrossCheck

/-- The two streams of a program. -/
inductive Pipe where
  | stdout
  | stderr
  deriving DecidableEq, Repr

/-- The name of a stream in messages. -/
def Pipe.name : Pipe → String
  | .stdout => "stdout"
  | .stderr => "stderr"

/-- A line that arrives on a stream, with its newline if it has one. -/
structure Arrival where
  pipe : Pipe
  line : List Char
  deriving DecidableEq, Repr

namespace Arrival

/-- The lines of one stream. -/
def linesOn (p : Pipe) (as : List Arrival) : List (List Char) :=
  (as.filter fun x => x.pipe = p).map line

/-- All lines together. -/
def output (as : List Arrival) : List Char :=
  as.flatMap line

@[simp]
theorem linesOn_append (p : Pipe) (as bs : List Arrival) :
    linesOn p (as ++ bs) = linesOn p as ++ linesOn p bs := by
  simp [linesOn]

@[simp]
theorem linesOn_map (p q : Pipe) (ls : List (List Char)) :
    linesOn p (ls.map fun line => ⟨q, line⟩) = if q = p then ls else [] := by
  by_cases h : q = p <;> simp [linesOn, List.filter_map, Function.comp_def, h]

end Arrival

/-- **An order in which the lines of two streams may arrive.** -/
structure Merge (stdout stderr : List UInt8) where
  arrivals : List Arrival
  linesOn_stdout : Arrival.linesOn .stdout arrivals = Text.decodedLines stdout
  linesOn_stderr : Arrival.linesOn .stderr arrivals = Text.decodedLines stderr

namespace Merge

variable {stdout stderr : List UInt8}

/-- The output that the lines make in this order. -/
def output (m : Merge stdout stderr) : String :=
  .ofList (Arrival.output m.arrivals)

/-- The order in which the lines of the error stream come last. -/
def errorLast (stdout stderr : List UInt8) : Merge stdout stderr where
  arrivals := (Text.decodedLines stdout).map (fun line => ⟨.stdout, line⟩) ++
    (Text.decodedLines stderr).map fun line => ⟨.stderr, line⟩
  linesOn_stdout := by simp
  linesOn_stderr := by simp

end Merge

/-- How a program ended. -/
inductive ExitStatus where
  | exited (code : Int)
  | signaled (number : Nat)
  | unknown
  deriving DecidableEq, Repr

/-- The exit code of a program, as a shell would have it. -/
def ExitStatus.code : ExitStatus → Int
  | .exited code => code
  | .signaled number => 128 + number
  | .unknown => 1

/-- The exit code of a program that ran, and the text that it wrote. -/
structure Execution where
  exitCode : Int
  output : String
  deriving DecidableEq, Repr

/-- The finding of a verifier that ran. -/
def Execution.finding (mode : ExtractMode) (x : Execution) : Finding where
  exitCode := x.exitCode
  hashes := mode.extract x.output

/-- A program that was started, once nothing more is to be had from it. -/
structure Child where
  /-- What was read of its standard output. -/
  stdout : List UInt8
  /-- What was read of its error stream. -/
  stderr : List UInt8
  arrivals : Merge stdout stderr
  /-- Why a stream could not be read any further before it was at its end. -/
  fault : Pipe → Option String := fun _ => none
  /-- How it ended, unless that could not be waited for. -/
  status : Except String ExitStatus

end CrossCheck
