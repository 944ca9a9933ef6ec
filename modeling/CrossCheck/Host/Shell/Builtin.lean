import CrossCheck.Host.Program
import CrossCheck.Host.Shell.Builtin.Condition
import CrossCheck.Host.Shell.Builtin.Directory
import CrossCheck.Host.Shell.Builtin.Signal
import CrossCheck.Host.Shell.Builtin.Variable
import CrossCheck.Host.Shell.Script.Reader
import CrossCheck.Host.Tool.Format

/-!
# Commands of the shell itself

The commands that run no script and start no program, and what a name stands for.

* `builtin?` : the command of a name
* `describe` : what a name stands for
-/

namespace CrossCheck.Host.Shell

/-- Writes the words; an option at the front leaves out the newline. -/
def echo (ws : List String) : Action Nat := do
  let (isEnded, ws) := match ws with
    | "-n" :: rest => (false, rest)
    | ws => (true, ws)
  let x := Escapes.shellText.expand (" ".intercalate ws).toList
  put (.ofList (x.text ++ if isEnded && !x.stops then ['\n'] else []))
  return 0

/-- Writes words as a format says. -/
def printf (ws : List String) : Action Nat :=
  withOptions [] ws fun o =>
    match o.operands with
    | [] => failing "usage: printf format [arg ...]"
    | format :: words => do
      let x := Dialect.shell.print format words
      for message in x.messages.reverse do
        modify fun p => p.complain message
      put (.ofList x.text)
      return x.status

/-- The command `test` or, with a bracket at its end, `[`. -/
def test (bracket : Bool) (ws : List String) : Action Nat := do
  match testStatus (← get) bracket ws with
  | .ok status => return status
  | .error fault => failing fault.message

/-- The number of loops that a command is about. -/
def withLoops (ws : List String) (again : Bool) : Action Nat :=
  let word := ws.headD "1"
  withNumber word fun n => do
    let p ← get
    if n = 0 then failing ("Illegal number: " ++ word)
    else
      if 0 < p.loops then set { p with flow := .leaving (min n p.loops) again }
      return 0

/-- Leaves a function or a script. -/
def returnCommand (ws : List String) : Action Nat := do
  let p ← get
  let leave (status : Nat) : Action Nat := do
    set { p with flow := .returning }
    return status
  match ws with
  | [] => leave p.status
  | w :: _ => withNumber w leave

/-- Ends the shell. -/
def exitCommand (ws : List String) : Action Nat := do
  let p ← get
  let leave (status : Nat) : Action Nat := do
    set { p with flow := .exiting }
    return status
  match ws with
  | [] => leave (p.lastStatus.getD p.status)
  | w :: _ => withNumber w leave

/-- Writes the times that were used, which nobody measures. -/
def times : Action Nat := do
  put "0m0.000000s 0m0.000000s\n0m0.000000s 0m0.000000s\n"
  return 0

/-- The commands that need nothing but a process. -/
def builtins : List (String × (List String → Action Nat)) :=
  [(":", fun _ => return 0), ("[", test true), ("alias", aliasNames),
    ("bg", fun _ => failing "No current job"), ("break", (withLoops · false)), ("cd", cd),
    ("chdir", cd), ("continue", (withLoops · true)), ("echo", echo), ("exit", exitCommand),
    ("export", markVariables "export" Variable.exported fun v => { v with exported := true }),
    ("false", fun _ => return 1), ("fg", fun _ => failing "No current job"), ("getopts", getopts),
    ("jobs", fun _ => return 0), ("kill", kill), ("local", localNames), ("printf", printf),
    ("pwd", pwd), ("read", readLine),
    ("readonly", markVariables "readonly" Variable.readOnly fun v => { v with readOnly := true }),
    ("return", returnCommand), ("set", setCommand), ("shift", shift), ("test", test false),
    ("times", fun _ => times), ("trap", trap), ("true", fun _ => return 0),
    ("ulimit", fun _ => do put "unlimited\n"; return 0), ("umask", umask),
    ("unalias", unaliasNames), ("unset", unsetNames), ("wait", wait)]

/-- The commands that run scripts, start programs or tell what runs. -/
def runners : List String :=
  [".", "command", "eval", "exec", "hash", "type"]

/-- The name is that of a command of the shell. -/
def isBuiltin (name : String) : Bool :=
  runners.contains name || (builtins.lookup name).isSome

/-- The path of a program. -/
def Process.located (p : Process) (name : String) : Except ProgramFault String :=
  p.system.tree.located p.directory (p.value "PATH") name

/-- What a name stands for, in words if `verbose`; nothing if it stands for nothing. -/
def description? (p : Process) (verbose : Bool) (name : String) : Option String :=
  let shown (text : String) : Option String := some (if verbose then name ++ text else name)
  if keywords.contains name then shown " is a shell keyword"
  else
    match p.aliases.lookup name with
    | some text =>
      some (if verbose then name ++ " is an alias for " ++ text
        else "alias " ++ name ++ "=" ++ singleQuoted text)
    | none =>
      if (p.functions.lookup name).isSome then shown " is a shell function"
      else if isBuiltin name then
        shown (if specialCommands.contains name then " is a special shell builtin"
          else " is a shell builtin")
      else if name.toList.contains '/' then
        if (p.system.tree.find p.directory (textOf name)).toBool then shown (" is " ++ name)
        else none
      else (p.located name).toOption.map fun path =>
        if verbose then name ++ " is " ++ path else path

/-- Writes what a name stands for. -/
def describe (verbose : Bool) (name : String) : Action Nat := do
  match description? (← get) verbose name with
  | some text =>
    put (text ++ "\n")
    return 0
  | none =>
    if verbose then put (name ++ ": not found\n")
    return 127

end CrossCheck.Host.Shell
