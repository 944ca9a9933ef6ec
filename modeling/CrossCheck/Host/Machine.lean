import CrossCheck.Host.Shell
import CrossCheck.Verifier

/-!
# Starting programs

A program is started in a directory with nothing on its standard input, and runs to its end.
-/

namespace CrossCheck.Host

/-- The number of the process that starts programs. -/
def starterNumber : Nat := 100

/-- The process of a program that is started in a directory with an environment. -/
def process (t : Tree) (directory : List String) (env : List (String × String)) (name : String) :
    Shell.Process where
  system := { System.start t with nextProcess := starterNumber + 2 }
  number := starterNumber + 1
  parentNumber := starterNumber
  name := name
  directory := directory
  bindings := env.reverse.map fun v =>
    (octetString v.1, { value := some (octetString v.2), exported := true })

/-- What a process that has ended leaves. What it wrote to its error stream is read last. -/
def Shell.Process.remains (p : Shell.Process) : Child :=
  let s := p.system.release false
  { stdout := (s.written 0).toBytes
    stderr := (s.written 1).toBytes
    arrivals := .errorLast _ _
    status := .ok <| match p.flow with
      | .killed signal => .signaled signal
      | _ => .exited (p.status % 256 : Nat) }

/-- Starts a program in a directory with an environment, unless there is no such program or what it
is given has a NUL in it. -/
def start (directory : List String) (env : List (String × String)) (c : Command) :
    StateM Tree (Except String Child) := do
  let t ← get
  if (.ofText c.program :: c.arguments).any fun a => a.bytes.contains 0 then
    return .error "nul byte found in provided data"
  let name := octetString c.program
  let search := ((env.reverse.lookup "PATH").map octetString).getD defaultSearch
  let arguments := c.arguments.map fun a => String.ofList (Octets.ofBytes a.bytes)
  let invocation := do
    let path ← t.located directory search name
    t.invocation directory path name arguments
  match invocation with
  | .error f => return .error f.cause
  | .ok i =>
    let p := process t directory env i.name
    let (_, p) := (Shell.runInvocation (Shell.eval Shell.maxDepth) i).run p
    set p.system.tree
    return .ok p.remains

end CrossCheck.Host
