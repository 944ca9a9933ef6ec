import CrossCheck.Host.Shell.Script
import CrossCheck.Host.Stream

/-!
# Shell processes

A shell that runs: its parameters and variables, where its streams lead, and how it goes on. A part
of a script that runs by itself is a process of its own, which starts as a copy of the one that it
belongs to and leaves behind only what the two share, the `System`.

* `Process.value?` : the value of a parameter or variable
* `Process.assign` : sets a variable, unless it is read-only
* `Process.write` and `Process.complain` : what goes to the streams
* `Process.child` : a process of its own for a part
-/

namespace CrossCheck.Host.Shell

/-- A variable. One without a value may still be marked. -/
structure Variable where
  value : Option String := none
  /-- Programs that are started see it. -/
  exported : Bool := false
  readOnly : Bool := false
  deriving DecidableEq, Repr

/-- How a process goes on. -/
inductive Flow where
  | running
  /-- That many loops are left, the last of them only for its next round if `again`. -/
  | leaving (loops : Nat) (again : Bool)
  | returning
  /-- After an error that ends the shell, unless the command is one that takes it on itself. -/
  | failed
  | exiting
  | killed (signal : Nat)
  deriving DecidableEq, Repr

/-- A shell that runs. -/
structure Process where
  system : System
  number : Nat := 1
  /-- The number of the shell that the process is a part of. -/
  shellNumber : Nat := 1
  parentNumber : Nat := 0
  /-- The parameter `0`. -/
  name : String
  arguments : List String := []
  bindings : List (String × Variable) := []
  functions : List (String × Script) := []
  aliases : List (String × String) := []
  /-- The letters of the options that are on. -/
  options : List Char := []
  /-- What is run when a signal comes; 0 stands for the end of the shell. -/
  traps : List (Nat × String) := []
  /-- The open file that each stream leads to. -/
  streams : List (Nat × Nat) := [(0, 0), (1, 1), (2, 2)]
  directory : List String
  /-- The path of the directory as the shell came to it. -/
  path : String := "/"
  /-- The line that is being run. -/
  line : Nat := 0
  /-- The line up to which the script has been read. -/
  lastRead : Nat := 1
  /-- The command of the shell that is being run. -/
  command : Option String := none
  status : Nat := 0
  /-- The status of the last script whose output was put into a word of the command. -/
  substituted : Nat := 0
  flow : Flow := .running
  /-- The status that the shell ends with if what is run at its end says nothing else. -/
  lastStatus : Option Nat := none
  /-- The loops that are being run. -/
  loops : Nat := 0
  /-- The functions that are being run. -/
  calls : Nat := 0
  /-- What the variables were that are local to the functions that are being run. -/
  locals : List (List (String × Option Variable)) := []
  /-- The processes that were started and not waited for, with their statuses. -/
  jobs : List (Nat × Nat) := []
  /-- The number of the last of them. -/
  background : Option Nat := none
  /-- The here-documents of the scripts. -/
  documents : List (Nat × Word) := []
  nextDocument : Nat := 0
  mask : Nat := 18
  /-- What the command that is being run has still to write. -/
  unwritten : Octets := []
  /-- How much of an argument the command `getopts` has gone past. -/
  optionOffset : Nat := 0

namespace Process

/-- The process with a status. -/
def withStatus (p : Process) (status : Nat) : Process :=
  { p with status }

/-- Nothing keeps the process from its next command. -/
def isRunning (p : Process) : Bool :=
  p.flow = .running

/-- The process after it has exited with a status. -/
def exited (p : Process) (status : Nat) : Process :=
  { p with status, flow := .exiting }

/-- The process after a signal that ends it. -/
def killed (p : Process) (signal : Nat) : Process :=
  { p with status := 128 + signal, flow := .killed signal }

/-- An option is on. -/
def has (p : Process) (option : Char) : Bool :=
  p.options.contains option

/-! ### Streams -/

/-- The open file that a stream leads to. -/
def stream? (p : Process) (stream : Nat) : Option Nat :=
  p.streams.lookup stream

/-- Lets a stream lead to an open file, or closes it. -/
def lead (p : Process) (stream : Nat) (number : Option Nat) : Process :=
  let others := p.streams.filter fun s => s.1 ≠ stream
  { p with streams := match number with
    | some n => (stream, n) :: others
    | none => others }

/-- What can be read from a stream. -/
def pending (p : Process) (stream : Nat) : Option Octets := do
  p.system.pending (← p.stream? stream)

/-- Goes on past `n` octets of a stream. -/
def take (p : Process) (stream n : Nat) : Process :=
  match p.stream? stream with
  | some number => { p with system := p.system.take number n }
  | none => p

/-- Writes to a stream, unless it cannot be written to. -/
def write? (p : Process) (stream : Nat) (s : Octets) : Option Process := do
  let number ← p.stream? stream
  return { p with system := ← p.system.put? number s }

/-- Writes to a stream. What cannot be written is lost. -/
def write (p : Process) (stream : Nat) (s : Octets) : Process :=
  if s.isEmpty then p else (p.write? stream s).getD p

/-- A message of the shell itself, which names the shell, the line and the command. -/
def complain (p : Process) (message : String) : Process :=
  let command := match p.command with
    | some name => name ++ ": "
    | none => ""
  p.write 2 (p.name ++ ": " ++ p.line.repr ++ ": " ++ command ++ message ++ "\n").toList

/-- An error. -/
def fail (p : Process) (message : String) : Process :=
  { p.complain message with status := 2, flow := .failed }

/-! ### Parameters -/

/-- The letters of options, in the order in which they are shown. -/
def optionLetters : List Char :=
  "pubaCEVvxsnmiIfe".toList

/-- The parameters in one text: between two of them stands the first character of `IFS`. -/
def joined (p : Process) : String :=
  let separator := match p.bindings.lookup "IFS" with
    | some { value := some s, .. } => String.ofList (s.toList.take 1)
    | _ => " "
  separator.intercalate p.arguments

/-- The value of a parameter or variable. -/
def value? (p : Process) (name : String) : Option String :=
  match name with
  | "?" => some p.status.repr
  | "$" => some p.shellNumber.repr
  | "#" => some p.arguments.length.repr
  | "!" => p.background.map Nat.repr
  | "-" => some (.ofList (optionLetters.filter p.has))
  | "@" | "*" => some p.joined
  | _ =>
    match natural? name.toList with
    | some 0 => some p.name
    | some n => p.arguments[n - 1]?
    | none => (p.bindings.lookup name).bind Variable.value

/-- The value of a variable, or nothing. -/
def value (p : Process) (name : String) : String :=
  (p.value? name).getD ""

/-- The characters that separate words. -/
def separators (p : Process) : List Char :=
  ((p.value? "IFS").getD " \t\n").toList

/-- Sets what a variable is. -/
def setVariable (p : Process) (name : String) (v : Variable) : Process :=
  { p with bindings := (name, v) :: p.bindings.filter fun w => w.1 ≠ name }

/-- Drops a variable. -/
def dropVariable (p : Process) (name : String) : Process :=
  { p with bindings := p.bindings.filter fun w => w.1 ≠ name }

/-- What a variable is. -/
def variableOf (p : Process) (name : String) : Variable :=
  (p.bindings.lookup name).getD {}

/-- Sets a variable, unless it is read-only. -/
def assign (p : Process) (name value : String) : Process :=
  let v := p.variableOf name
  if v.readOnly then p.fail (name ++ ": is read only")
  else
    let p := if name = "OPTIND" then { p with optionOffset := 0 } else p
    p.setVariable name { v with value := some value, exported := v.exported || p.has 'a' }

/-- Sets a variable and marks it for programs that are started. -/
def assignExported (p : Process) (name value : String) : Process :=
  let p := p.assign name value
  if p.isRunning then p.setVariable name { p.variableOf name with exported := true } else p

/-- Makes a variable local to the innermost part that has variables of its own, with the value that
it has. -/
def makeLocal (p : Process) (name : String) : Process :=
  match p.locals with
  | frame :: frames =>
    if frame.any fun v => v.1 = name then p
    else { p with locals := ((name, p.bindings.lookup name) :: frame) :: frames }
  | [] => p

/-- Enters a part that has variables of its own. -/
def enter (p : Process) : Process :=
  { p with locals := [] :: p.locals }

/-- Leaves a part that has variables of its own. -/
def leave (p : Process) : Process :=
  match p.locals with
  | frame :: frames =>
    frame.foldl (fun p v =>
      match v.2 with
      | some w => p.setVariable v.1 w
      | none => p.dropVariable v.1) { p with locals := frames }
  | [] => p

/-- The variables that programs see which are started. -/
def environment (p : Process) : List (String × String) :=
  p.bindings.filterMap fun v =>
    if v.2.exported then v.2.value.map fun value => (v.1, value) else none

/-! ### Processes of their own -/

/-- The process for a part that runs by itself, and the process that it is a part of. What is run
when a signal comes is not run in it. -/
def child (p : Process) : Process :=
  let (number, system) := p.system.newProcess
  { p with
    system, number, parentNumber := p.number
    traps := p.traps.filter fun t => t.2.isEmpty
    jobs := [] }

end Process

/-- What changes a process and has a result. -/
abbrev Action := StateM Process

end CrossCheck.Host.Shell
