import CrossCheck.Host.Shell.Builtin.Basic

/-!
# Signals

A signal is sent to the number of a process. The process notices it before its next command: it runs
what it has set for the signal, or ends if the signal is one that ends a process.

* `signals` : the names of the signals
* `kill`, `trap`, `wait` : the commands
* `Process.due` : the signal that a process has to see to next
-/

namespace CrossCheck.Host.Shell

/-- The names of the signals, from 1 on. -/
def signals : List String :=
  ["HUP", "INT", "QUIT", "ILL", "TRAP", "ABRT", "BUS", "FPE", "KILL", "USR1", "SEGV", "USR2",
    "PIPE", "ALRM", "TERM", "STKFLT", "CHLD", "CONT", "STOP", "TSTP", "TTIN", "TTOU", "URG", "XCPU",
    "XFSZ", "VTALRM", "PROF", "WINCH", "IO", "PWR", "SYS", "32", "33", "RTMIN"] ++
  (List.range 15).map (fun n => "RTMIN+" ++ (n + 1).repr) ++
  (List.range 14).map (fun n => "RTMAX-" ++ (14 - n).repr) ++ ["RTMAX"]

/-- What is said of a process that a signal has ended. -/
def signalTexts : List String :=
  ["Hangup", "Interrupt", "Quit", "Illegal instruction", "Trace/breakpoint trap", "Aborted",
    "Bus error", "Floating point exception", "Killed", "User defined signal 1",
    "Segmentation fault", "User defined signal 2", "Broken pipe", "Alarm clock", "Terminated",
    "Stack fault", "Child exited", "Continued", "Stopped (signal)", "Stopped",
    "Stopped (tty input)", "Stopped (tty output)", "Urgent I/O condition",
    "CPU time limit exceeded", "File size limit exceeded", "Virtual timer expired",
    "Profiling timer expired", "Window changed", "I/O possible", "Power failure", "Bad system call"]

/-- What is said of a process that the signal of a number has ended. -/
def signalText (number : Nat) : String :=
  (signalTexts[number - 1]?).getD ("Real-time signal " ++ (number - 34).repr)

/-- The interrupt from the keyboard. -/
def interruptSignal : Nat := 2

/-- The signal that nothing can be set for. -/
def killSignal : Nat := 9

/-- The signal that a pipe without a reader sends. -/
def pipeSignal : Nat := 13

/-- The signal that asks a process to end. -/
def endSignal : Nat := 15

/-- A signal leaves a process as it is. -/
def isHarmless (number : Nat) : Bool :=
  [17, 18, 19, 20, 21, 22, 23, 28].contains number

/-- The signal of a name in any case, or of a number; 0 is the end of a shell. -/
def signal? (name : String) : Option Nat :=
  match natural? name.toList with
  | some n => if n ≤ signals.length then some n else none
  | none =>
    let name := name.toList.map Char.toUpper
    let i := ("EXIT" :: signals).findIdx fun s => s.toList = name
    if i ≤ signals.length then some i else none

/-- The name of a signal. -/
def signalName (number : Nat) : String :=
  (("EXIT" :: signals)[number]?).getD ""

/-! ### Sending -/

/-- Sends a signal to a process that is there. -/
def send (signal : Nat) (word : String) : Action Nat :=
  let word := if word.toList.head? = some '-' then .ofList word.toList.tail else word
  withNumber word fun number => do
    let p ← get
    let isThere := number < p.system.nextProcess &&
      (number = p.number || number = p.shellNumber || number = p.parentNumber ||
        p.jobs.any fun j => j.1 = number)
    if !isThere then refusing "No such process\n" 1
    else
      if signal ≠ 0 then
        set { p with system :=
          { p.system with signals := p.system.signals ++ [(number, signal)] } }
      return 0

/-- What `kill` is used for. -/
def killUsage : String :=
  "Usage: kill [-s sigspec | -signum | -sigspec] [pid | job]... or\nkill -l [exitstatus]"

/-- Writes the names of signals. -/
def listSignals : List String → Action Nat
  | [] => do
    put ("0\n" ++ .join (signals.map (· ++ "\n")))
    return 0
  | w :: _ => withNumber w fun n => do
    let n := if 128 < n then n - 128 else n
    if 0 < n && n ≤ signals.length then
      put (signalName n ++ "\n")
      return 0
    else failing ("invalid signal number or exit status: " ++ w)

/-- Sends signals, or writes their names. -/
def kill (ws : List String) : Action Nat :=
  let direct := ws.head?.bind fun w =>
    match w.toList with
    | '-' :: c :: cs => signal? (.ofList (c :: cs))
    | _ => none
  let sends (signal : Nat) : List String → Action Nat
    | [] => failing killUsage
    | targets => eachWord (send signal) targets
  match direct, ws with
  | _, [] => failing killUsage
  | some signal, _ :: rest => sends signal rest
  | none, ws => withOptions [⟨'l', "", .absent⟩, ⟨'s', "", .needed⟩] ws fun o =>
    match o.value? 's' with
    | some name =>
      match signal? name with
      | some signal => if o.has 'l' then failing killUsage else sends signal o.operands
      | none => failing ("invalid signal number or name: " ++ name)
    | none => if o.has 'l' then listSignals o.operands else sends endSignal o.operands

/-! ### Noticing -/

/-- Sets what is run when a signal comes; without an action, nothing. -/
def setTrap (p : Process) (signal : Nat) (action : Option String) : Process :=
  let others := p.traps.filter fun t => t.1 ≠ signal
  { p with traps := match action with
    | some a => (signal, a) :: others
    | none => others }

/-- Sets or shows what is run when signals come. -/
def trap (ws : List String) : Action Nat :=
  withOptions [] ws fun o => do
    match o.operands with
    | [] =>
      let p ← get
      for number in List.range (signals.length + 1) do
        match p.traps.lookup number with
        | some action => put ("trap -- " ++ singleQuoted action ++ " " ++ signalName number ++ "\n")
        | none => pure ()
      return 0
    | first :: rest =>
      let isAction := !rest.isEmpty && (natural? first.toList).isNone
      let action := if isAction && first ≠ "-" then some first else none
      eachSignal action (if isAction then rest else first :: rest)
where
  /-- Sets what is run when several signals come, up to the first that is none. -/
  eachSignal (action : Option String) : List String → Action Nat
    | [] => return 0
    | w :: ws => do
      match signal? w with
      | some signal =>
        modify fun p => setTrap p signal action
        eachSignal action ws
      | none =>
        modify fun p => p.write 2 ("trap: " ++ w ++ ": bad trap\n").toList
        return 1

/-- The signal that a process has to see to next, and the process that will have seen to it. Those
that leave it as it is are passed over. -/
def Process.due (p : Process) : Option Nat × Process :=
  let isDue (s : Nat × Nat) : Bool := s.1 = p.number
  let isSeen (s : Nat × Nat) : Bool := isDue s &&
    (s.2 = killSignal || match p.traps.lookup s.2 with
      | some action => !action.isEmpty
      | none => !isHarmless s.2)
  match p.system.signals.find? isSeen with
  | some s => (some s.2, { p with system := { p.system with signals := p.system.signals.erase s } })
  | none =>
    (none, { p with system :=
      { p.system with signals := p.system.signals.filter fun s => !isDue s } })

/-- Waits for processes, all of which have come to their end. -/
def wait (ws : List String) : Action Nat :=
  withOptions [] ws fun o => do
    modify fun p => { p with system := p.system.release false }
    if o.operands.isEmpty then return 0
    let p ← get
    let statuses := o.operands.map fun w =>
      match number? w with
      | some n => (p.jobs.lookup n).getD 127
      | none => 127
    match o.operands.find? fun w => (number? w).isNone && w.toList.head? ≠ some '%' with
    | some w => failing ("Illegal number: " ++ w)
    | none => return (statuses.getLast?).getD 127

end CrossCheck.Host.Shell
