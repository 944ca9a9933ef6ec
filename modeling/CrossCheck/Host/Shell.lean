import CrossCheck.Host.Shell.Builtin
import CrossCheck.Host.Tool

/-!
# The shell

Scripts are run on shell processes. A part of a script that runs by itself runs to its end before
what comes after it, and so do the parts of a pipeline, from left to right.

A script may run for ever. So the number of its parts that are nested in one another is bounded, and
so is the number of rounds of a loop; a process that reaches a bound is killed.

* `eval` : runs a part of a script
* `runShell` : runs a shell as its arguments say
-/

namespace CrossCheck.Host.Shell

/-- A way to run parts of scripts. The status of a part that is `tested` ends no shell. -/
abbrev Runner := (tested : Bool) → Script → Action Unit

/-- Rounds of a loop. -/
def maxRounds : Nat := 100000

/-- Parts of scripts that are nested in one another. -/
def maxDepth : Nat := 16000

/-- Kills the process. -/
def exhaust : Action Unit :=
  modify fun p => p.killed killSignal

/-! ### Texts of scripts -/

/-- Runs the scripts of a text, and says whether there were any. Its lines are shown if they are
`echoed` and that is asked for. -/
def runLines (run : Runner) (tested echoed : Bool) : (lines : Nat) → Source → Action Bool
  | 0, _ => return false
  | lines + 1, source => do
    let p ← get
    if !p.isRunning then return false
    match Script.next.run { source with aliases := p.aliases, nextDocument := p.nextDocument } with
    | .error fault =>
      set ({ p with line := fault.line }.fail ("Syntax error: " ++ fault.cause.message))
      return true
    | .ok (none, _) => return false
    | .ok (some script, next) =>
      let read := source.rest.take (source.rest.length - next.rest.length)
      let p := if echoed && p.has 'v' then p.write 2 read else p
      set { p with
        documents := next.documents ++ p.documents, nextDocument := next.nextDocument
        lastRead := next.line }
      let isScript := match script with
        | .nothing => false
        | _ => true
      run tested script
      let more ← runLines run tested echoed lines { next with documents := [] }
      return isScript || more

/-- Runs the scripts of a text. -/
def runText (run : Runner) (tested echoed : Bool) (text : Octets) : Action Bool := do
  let lastRead := (← get).lastRead
  let hasRun ← runLines run tested echoed (text.length + 2) { rest := text }
  modify fun p => { p with lastRead }
  return hasRun

/-- Runs the scripts of a text in a command; the status is 0 if there are none. -/
def runWithin (run : Runner) (tested : Bool) (text : Octets) : Action Nat := do
  let hasRun ← runText run tested false text
  if hasRun then return (← get).status else return 0

/-! ### Ends of processes -/

/-- Runs what is set for the end of the shell. -/
def finish (run : Runner) : Action Unit := do
  let p ← get
  match p.flow, p.traps.lookup 0 with
  | .killed _, _ | _, none => return
  | _, some action =>
    let status := p.status
    set { setTrap p 0 none with flow := .running, lastStatus := some status }
    let _ ← runText run false false action.toList
    modify fun p =>
      match p.flow with
      | .exiting | .failed | .killed _ => p
      | _ => p.withStatus status

/-- Sees to the signals that have come, at most `most` of them. -/
def attend (run : Runner) : (most : Nat) → Action Unit
  | 0 => return
  | most + 1 => do
    match (← get).due with
    | (none, p) => set p
    | (some signal, p) =>
      match if signal = killSignal then none else p.traps.lookup signal with
      | none => set (p.killed signal)
      | some action =>
        set p
        let _ ← runText run false false action.toList
        modify fun q => if q.isRunning then q.withStatus p.status else q
        if (← get).isRunning then attend run most

/-- Sees to the signals that have come. -/
def attendAll (run : Runner) : Action Unit := do
  let p ← get
  if p.isRunning && !p.system.signals.isEmpty then attend run (p.system.signals.length + 1)

/-- What is said when a process has ended that another one waits for. -/
def Process.mourn (p child : Process) : Process :=
  match child.flow with
  | .killed signal =>
    if signal = interruptSignal || signal = pipeSignal then p
    else p.write 2 (signalText signal ++ "\n").toList
  | _ => p

/-- Runs something in a process of its own, to its end. -/
def runChild (run : Runner) (prepare : Process → Process) (body : Action Unit) :
    Action Process := do
  let p ← get
  let child := prepare p.child
  let (_, child) := (body *> finish run).run child
  let child := { child with status := child.status % 256 }
  set { p with system := child.system }
  return child

/-- Waits for a process that has come to its end. -/
def await (child : Process) : Action Unit :=
  modify fun p => (p.mourn child).withStatus child.status

/-- Writes what processes beside this one write later, or only what comes promptly. -/
def release (onlyPrompt : Bool) : Action Unit :=
  modify fun p => { p with system := p.system.release onlyPrompt }

/-- The output of a script. -/
def outputOf (run : Runner) : Script → Action Octets
  | .nothing => return []
  | s => do
    release true
    let (n, m, system) := (← get).system.pipe
    modify fun p => { p with system }
    let child ← runChild run (fun p => p.lead 1 (some m)) (run false s)
    modify fun p => { p.mourn child with substituted := child.status }
    release false
    return ((← get).system.pending n).getD []

/-! ### Programs -/

/-- Why a process cannot read its input. -/
def Process.inputFault (p : Process) : Option InputFault :=
  match p.pending 0, (p.stream? 0).bind (p.system.opened[·]?) with
  | some _, _ => none
  | none, some { channel := .directory, .. } => some .directory
  | none, _ => some .closed

/-- Runs a tool in the process. -/
def runTool (i : Invocation) : Action Unit := do
  let p ← get
  let isPipe := match (p.stream? 0).bind (p.system.opened[·]?) with
    | some { channel := .pipe _, .. } => true
    | _ => false
  let e := i.tool.effect
    { name := i.name, arguments := i.arguments, input := (p.pending 0).getD []
      inputFault := p.inputFault, inputIsPipe := isPipe, tree := p.system.tree
      directory := p.directory }
  let p := { p with system := { p.system with tree := e.tree } }
  let canWrite := (p.write? 1 []).isSome || (e.out.isEmpty && !i.tool.needsOutput)
  let p := (e.writings.foldl (fun p w => p.write w.1 w.2) (p.take 0 e.taken))
  if canWrite then set (p.withStatus e.status)
  else
    let (message, status) := i.tool.refusedOutput
    set ((p.write 2 (i.name ++ ": " ++ message ++ "\n").toList).withStatus status)

/-- The shell that a process becomes. -/
def Process.ofShell (p : Process) (name : String) : Process where
  system := p.system
  number := p.number
  shellNumber := p.number
  parentNumber := p.parentNumber
  name := name
  traps := p.traps.filter fun t => t.2.isEmpty
  streams := p.streams
  directory := p.directory
  path :=
    match p.value? "PWD" with
    | some path =>
      if isFromRoot path && p.system.tree.find [] (textOf path) matches .ok _ &&
          (p.system.tree.find [] (textOf path)).toOption = some p.directory then path
      else "/" ++ "/".intercalate (p.directory.map octetString)
    | none => "/" ++ "/".intercalate (p.directory.map octetString)
  mask := p.mask
  bindings := p.environment.filterMap fun v =>
    if isName v.1.toList then some (v.1, { value := some v.2, exported := true }) else none

/-- The process with the variables that every shell sets. -/
def Process.withDefaults (p : Process) : Process :=
  let given (name value : String) (exported : Bool) (p : Process) : Process :=
    p.setVariable name { value := some value, exported }
  let p := if (p.value? "PATH").isSome then p else given "PATH" defaultSearch false p
  [("IFS", " \t\n"), ("OPTIND", "1"), ("PPID", p.parentNumber.repr), ("PS1", "# "), ("PS2", "> "),
    ("PS4", "+ ")].foldl (fun p v => given v.1 v.2 false p) (given "PWD" p.path true p)

/-- Runs the script in a file as a shell does that is given its path. -/
def runFile (run : Runner) (path : String) : Action Unit := do
  let p ← get
  match p.openToRead path with
  | .error message => set (p.fail ("cannot open " ++ path ++ ": " ++ message))
  | .ok (number, p) =>
    set { p with name := path }
    let _ ← runText run false true ((p.system.pending number).getD [])

/-- Runs a shell as its arguments say: a text after `-c`, a file, or its standard input. -/
def runShell (run : Runner) (name : String) (ws : List String) : Action Unit := do
  modify fun p => (p.ofShell name).withDefaults
  let s := setting true (← get) ws
  match s.fault with
  | some message => set (s.process.fail message)
  | none =>
    set s.process
    if s.hasScript then
      match s.rest with
      | [] => modify fun p => p.fail "-c requires an argument"
      | text :: more =>
        modify fun p => { p with name := more.headD name, arguments := more.tail }
        let _ ← runText run false false text.toList
    else
      match s.process.has 's', s.rest with
      | false, path :: more =>
        modify fun p => { p with arguments := more }
        runFile run path
      | _, words =>
        let p := { s.process.switch true 's' with arguments := words }
        let text := (p.pending 0).getD []
        set (p.take 0 text.length)
        let _ ← runText run false true text

/-- Runs an invocation in the process, which ends with it. -/
def runInvocation (run : Runner) (i : Invocation) : Action Unit := do
  if i.tool = .shell then
    runShell run i.name i.arguments
    finish run
  else runTool i

/-- Runs the program of a name in the process, which ends with it. A file that names no interpreter
is a script of the shell. -/
def becomeProgram (run : Runner) (name : String) (arguments : List String) : Action Unit := do
  let p ← get
  let refuse (message : String) (status : Nat) : Action Unit :=
    set ((p.complain (name ++ ": " ++ message)).exited status)
  let tree := p.system.tree
  match p.located name with
  | .error .notFound => refuse "not found" 127
  | .error _ => refuse "Permission denied" 126
  | .ok path =>
    match tree.invocation p.directory path name arguments with
    | .ok i =>
      runInvocation run i
      modify fun p => { p with traps := [] }
    | .error .notFound => refuse "not found" 127
    | .error .denied => refuse "Permission denied" 126
    | .error .noFormat =>
      match tree.findNode p.directory (textOf path) with
      | .ok (.file content _) =>
        if isForeign (.ofBytes content) then refuse "Exec format error" 126
        else
          runInvocation run { tool := .shell, name := "/bin/sh", arguments := path :: arguments }
          modify fun p => { p with traps := [] }
      | _ => refuse "Exec format error" 126

/-- Starts the program of a name and waits for it. -/
def runProgram (run : Runner) (name : String) (arguments : List String) : Action Unit := do
  let p ← get
  match p.located name with
  | .error fault =>
    let message := if fault = .notFound then "not found" else "Permission denied"
    set ((p.complain (name ++ ": " ++ message)).withStatus 127)
  | .ok _ =>
    release true
    await (← runChild run id (becomeProgram run name arguments))
    release false

/-! ### Commands of the shell -/

/-- Runs a command of the shell: its messages name it, and what it writes comes after them. An error
ends the shell only if the command is a `special` one. -/
def runBuiltin (name : String) (special : Bool) (body : Action Nat) : Action Unit := do
  let command := (← get).command
  modify fun p => { p with command := some name }
  let status ← body
  let p ← get
  let text := p.unwritten
  let p := { p with unwritten := [] }
  let (p, status) := match if text.isEmpty then some p else p.write? 1 text with
    | some p => (p, status)
    | none => (p.complain (name ++ ": I/O error"), status ||| 1)
  let p := { p with command }
  set <| match p.flow with
    | .failed => if special then p else { p with flow := .running }
    | .killed _ => p
    | _ => p.withStatus status

/-- Runs the scripts in a file. -/
def sourceFile (run : Runner) (tested : Bool) (ws : List String) : Action Nat :=
  withOptions [] ws fun o => do
    let p ← get
    match o.operands with
    | [] => return 0
    | name :: _ =>
      let isFile (path : String) : Bool :=
        match p.system.tree.findNode p.directory (textOf path) with
        | .ok node => Tree.isFile node
        | .error _ => false
      let path? := if name.toList.contains '/' then some name
        else ((splitAt ':' (p.value "PATH")).map fun d =>
          if d.isEmpty then name else d ++ "/" ++ name).find? isFile
      match path? with
      | none => failing (name ++ ": not found")
      | some path =>
        match p.openToRead path with
        | .error message => failing ("cannot open " ++ path ++ ": " ++ message)
        | .ok (number, p) =>
          set { p with command := some path }
          let status ← runWithin run tested ((p.system.pending number).getD [])
          let q ← get
          if q.flow = .returning then
            set { q with flow := .running }
            return q.status
          else return status

/-- Runs a command that runs scripts, starts programs or tells what runs. -/
def runnerCommand (run : Runner) (tested : Bool) (name : String) (ws : List String) : Action Nat :=
  match name with
  | "eval" => if ws.isEmpty then return 0 else runWithin run tested (" ".intercalate ws).toList
  | "." => sourceFile run tested ws
  | "exec" => do
    match ws with
    | [] => return 0
    | name :: arguments =>
      becomeProgram run name arguments
      modify fun p => match p.flow with
        | .killed _ => p
        | _ => { p with flow := .exiting }
      return (← get).status
  | "type" => eachWord (describe true) ws
  | "hash" => withOptions (flags "rv") ws fun o =>
    eachWord (fun name => do
      if isBuiltin name || ((← get).located name).toBool then return 0
      else
        modify fun p => p.complain (name ++ ": not found")
        return 1) o.operands
  | _ => withOptions (flags "pvV") ws fun o =>
    match o.operands with
    | [] => return 0
    | name :: _ => describe (o.has 'V') name

/-- The words behind `command`, which are run without regard to functions. -/
def bareCommand : List String → Option (List String)
  | "command" :: "-p" :: rest | "command" :: "--" :: rest =>
    some ((bareCommand rest).getD rest)
  | "command" :: name :: rest =>
    if name.toList.head? = some '-' then none
    else some ((bareCommand (name :: rest)).getD (name :: rest))
  | _ => none

/-- Functions that are nested in one another. -/
def maxCalls : Nat := 1000

/-- Runs a function. -/
def runFunction (run : Runner) (tested : Bool) (body : Script) (ws : List String) :
    Action Unit := do
  let p ← get
  if maxCalls ≤ p.calls then
    set (p.fail ("Maximum function recursion depth (" ++ maxCalls.repr ++ ") reached"))
  else
    set { p with arguments := ws, loops := 0, calls := p.calls + 1, optionOffset := 0 }
    run tested body
    modify fun q =>
      { q with
        arguments := p.arguments, loops := p.loops, calls := p.calls
        optionOffset := p.optionOffset
        flow := if q.flow = .returning then .running else q.flow }

/-! ### Simple commands -/

/-- The name is that of a command whose arguments may be assignments. -/
def takesAssignments (name : String) : Bool :=
  ["alias", "export", "local", "readonly"].contains name

/-- The fields of the words of a command. -/
def expandCommand (substitute : Script → Action Octets) : List Word → Action (List String)
  | [] => return []
  | w :: ws => do
    match ← expandWord substitute w with
    | [] => expandCommand substitute ws
    | ["command"] => return "command" :: (← expandCommand substitute ws)
    | name :: more =>
      let expand := if takesAssignments name then expandAssignment else expandWord
      return name :: more ++ (← ws.mapM (expand substitute)).flatten

/-- Sets the variables in front of a command one after another; the result is how they are shown. -/
def assignAll (substitute : Script → Action Octets) (assign : Process → String → String → Process) :
    List Word → Action (List String)
  | [] => return []
  | w :: ws => do
    match assignment? w with
    | none => assignAll substitute assign ws
    | some (name, value) =>
      let text ← expandValue substitute value
      let p ← get
      if !p.isRunning then return []
      set (assign p name text)
      return (name ++ "=" ++ text) :: (← assignAll substitute assign ws)

/-- Shows a command on the error stream of a process. -/
def showCommand (old : Process) (words : List String) : Action Unit :=
  modify fun p =>
    if p.isRunning && p.has 'x' then
      let text := (p.value "PS4" ++ " ".intercalate words ++ "\n").toList
      match old.stream? 2 with
      | some number => { p with system := (p.system.put? number text).getD p.system }
      | none => p
    else p

/-- Runs the command that fields stand for, with the variables that are set for it. -/
def runFields (run : Runner) (tested : Bool) (assignments : List Word) (old : Process)
    (fields : List String) : Action Unit := do
  let substitute := outputOf run
  let isBare := (bareCommand fields).isSome
  let function? := match fields with
    | name :: _ => old.functions.lookup name
    | [] => none
  match (bareCommand fields).getD fields with
  | [] =>
    showCommand old (← assignAll substitute Process.assign assignments)
    modify fun p => if p.isRunning then p.withStatus p.substituted else p
  | name :: arguments =>
    let special := !isBare && specialCommands.contains name
    if special then
      let assign := if name = "exec" && !arguments.isEmpty then Process.assignExported
        else Process.assign
      showCommand old ((← assignAll substitute assign assignments) ++ fields)
    else
      modify Process.enter
      let shown ← assignAll substitute
        (fun p name value => (p.makeLocal name).assignExported name value) assignments
      showCommand old (shown ++ fields)
    if (← get).isRunning then
      match function? with
      | some body => runFunction run tested body arguments
      | none =>
        if runners.contains name then
          runBuiltin name special (runnerCommand run tested name arguments)
        else
          match builtins.lookup name with
          | some command => runBuiltin name special (command arguments)
          | none => runProgram run name arguments
    if !special then modify Process.leave

/-- Runs a simple command. -/
def runSimple (run : Runner) (tested : Bool) (line : Nat) (assignments words : List Word)
    (rs : List Redirection) : Action Unit := do
  let substitute := outputOf run
  modify fun p => { p with line, substituted := 0 }
  let fields ← expandCommand substitute words
  if !(← get).isRunning then return
  let ts ← targets substitute rs
  let old ← get
  if !old.isRunning then return
  let isMade ← redirect substitute ts
  let name := fields.headD ""
  if isMade then runFields run tested assignments old fields
  else
    modify fun p => { p.withStatus 2 with
      flow := if specialCommands.contains name then .failed else p.flow }
  let keeps := name = "exec" && fields.length = 1 && isMade
  if !keeps then modify fun p => p.restore old (ts.map Prod.fst)

/-! ### Compound commands -/

/-- Ends the shell if the last status has to end it. -/
def checkStatus (tested : Bool) : Action Unit :=
  modify fun p =>
    let isOver := match p.flow with
      | .running | .returning => true
      | _ => false
    if p.has 'e' && !tested && p.status ≠ 0 && isOver then { p with flow := .exiting } else p

/-- How a loop goes on after a round. -/
def endRound : Action Bool := do
  let p ← get
  match p.flow with
  | .running => return true
  | .leaving n again =>
    if n ≤ 1 then
      set { p with flow := .running }
      return again
    else
      set { p with flow := .leaving (n - 1) again }
      return false
  | _ => return false

/-- Runs something as a loop. -/
def inLoop (body : Action Unit) : Action Unit := do
  let loops := (← get).loops
  modify fun p => { p with loops := loops + 1 }
  body
  modify fun p => { p with loops }

/-- Repeats a body as long as a condition succeeds or, `inverted`, fails. The status is that of the
last round. -/
def repeatWhile (inverted : Bool) (condition body : Action Unit) : (rounds last : Nat) → Action Unit
  | 0, _ => exhaust
  | rounds + 1, last => do
    condition
    let p ← get
    if !p.isRunning then
      if ← endRound then repeatWhile inverted condition body rounds last
      else modify fun q => if q.isRunning then q.withStatus last else q
    else if (p.status = 0) = (inverted = true) then modify fun p => p.withStatus last
    else
      body
      let status := (← get).status
      if ← endRound then repeatWhile inverted condition body rounds status

/-- Runs a body for each of several values of a variable. -/
def forEach (name : String) (body : Action Unit) : List String → Action Unit
  | [] => return
  | value :: values => do
    modify fun p => p.assign name value
    if !(← get).isRunning then return
    body
    if ← endRound then forEach name body values

/-- The script of the first arm with a pattern that a text fits. -/
def armOf (substitute : Script → Action Octets) (text : Octets) :
    List (List Word × Script) → Action (Option Script)
  | [] => return none
  | (patterns, body) :: arms => do
    if ← anyFits patterns then return some body else armOf substitute text arms
where
  /-- The text fits one of the patterns. -/
  anyFits : List Word → Action Bool
    | [] => return false
    | w :: ws => do
      let pattern ← expandPattern substitute w
      if !(← get).isRunning then return false
      else if pattern.fits text then return true
      else anyFits ws

/-- Runs the parts of a pipeline from left to right. `input` is where the first of them reads. The
status is that of the last one. -/
def runPipeline (run : Runner) (tested : Bool) (input : Option Nat) : List Script → Action Process
  | [] => get
  | part :: parts => do
    release true
    let from? (p : Process) : Process := match input with
      | some n => p.lead 0 (some n)
      | none => p
    if parts.isEmpty then
      let child ← runChild run from? (run tested part)
      modify fun p => p.mourn child
      return child
    else
      let (n, m, system) := (← get).system.pipe
      modify fun p => { p with system }
      let child ← runChild run (fun p => (from? p).lead 1 (some m)) (run tested part)
      let isCut := child.flow = .killed killSignal
      if !isCut then modify fun p => p.mourn child
      release false
      runPipeline run tested (some n) parts

/-- A part of a script that starts no program writes promptly. -/
def isPrompt (p : Process) : Script → Bool
  | .simple _ _ (w :: _) _ =>
    (plain? w).any fun name => isBuiltin name || (p.functions.lookup name).isSome
  | _ => true

/-- Runs a part of a script beside the others. What it writes comes after what the process writes
before it waits or starts something else. -/
def runBeside (run : Runner) (s : Script) : Action Unit := do
  let old ← get
  let (n, system) := old.system.open? { channel := .device false, canRead := true }
  set { old with system }
  let child ← runChild run (fun p => p.lead 0 (some n)) (run false s)
  modify fun p =>
    { p with
      system := p.system.delay old.system (isPrompt old s)
      status := 0, background := some child.number
      jobs := (child.number, child.status) :: p.jobs }

/-- Runs a part of a script in a process of its own, with redirections. -/
def runApart (run : Runner) (tested : Bool) (body : Script) (rs : List Redirection) :
    Action Unit := do
  let substitute := outputOf run
  let ts ← targets substitute rs
  if (← get).isRunning then
    await <| ← runChild run id do
      if ← redirect substitute ts then run tested body
      else modify fun p => { p with status := 2, flow := .failed }
    release false

/-- Runs a part of a script with redirections. -/
def runRedirected (run : Runner) (tested : Bool) (body : Script) (rs : List Redirection) :
    Action Unit := do
  let substitute := outputOf run
  let ts ← targets substitute rs
  let old ← get
  if old.isRunning then
    if ← redirect substitute ts then run tested body
    else
      modify fun p => p.withStatus 2
      checkStatus tested
    modify fun p => p.restore old (ts.map Prod.fst)

/-- Runs a part of a script; `run` runs the parts in it. -/
def evalPart (run : Runner) (tested : Bool) : Script → Action Unit
  | .nothing => return
  | .simple line assignments words rs => do
    runSimple run tested line assignments words rs
    attendAll run
    checkStatus tested
  | .pipeline parts => do
    let child ← runPipeline run tested none parts
    modify fun p => p.withStatus child.status
    release false
    checkStatus tested
  | .sequence first second => do
    run tested first
    if (← get).isRunning then run tested second
  | .both first second => do
    run true first
    let p ← get
    if p.isRunning && p.status = 0 then run tested second
  | .either first second => do
    run true first
    let p ← get
    if p.isRunning && p.status ≠ 0 then run tested second
  | .negation s => do
    run true s
    modify fun p => if p.isRunning then p.withStatus (if p.status = 0 then 1 else 0) else p
  | .background s => runBeside run s
  | .loop inverted condition body =>
    inLoop (repeatWhile inverted (run true condition) (run tested body) maxRounds 0)
  | .branch condition yes no => do
    run true condition
    let p ← get
    if p.isRunning then
      if p.status = 0 then run tested yes
      else
        match no with
        | some no => run tested no
        | none => set (p.withStatus 0)
  | .each line name words body => do
    modify fun p => { p with line }
    let values ← expandWords (outputOf run) words
    if (← get).isRunning then
      modify fun p => if values.isEmpty then p.withStatus 0 else p
      inLoop (forEach name (run tested body) values)
  | .choice line w arms => do
    modify fun p => { p with line }
    let text ← expandText (outputOf run) w
    if (← get).isRunning then
      let arm ← armOf (outputOf run) text.toList arms
      if (← get).isRunning then
        match arm with
        | some .nothing | none => modify fun p => p.withStatus 0
        | some body => run tested body
  | .subshell line body rs => do
    modify fun p => { p with line }
    runApart run tested body rs
    attendAll run
    checkStatus tested
  | .redirected line body rs => do
    modify fun p => { p with line }
    runRedirected run tested body rs
  | .function _ name body =>
    modify fun p =>
      { p with status := 0, functions := (name, body) :: p.functions.filter fun f => f.1 ≠ name }

/-- Runs a part of a script whose parts are nested at most `fuel` deep. A shell that is to read its
scripts only does nothing for it. -/
def eval : (fuel : Nat) → Runner
  | 0, _, _ => exhaust
  | fuel + 1, tested, s => do
    if !(← get).has 'n' then evalPart (eval fuel) tested s

end CrossCheck.Host.Shell
