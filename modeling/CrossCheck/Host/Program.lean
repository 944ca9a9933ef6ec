import CrossCheck.Host.Octets
import CrossCheck.Host.Tree

/-!
# Programs of a host

What stands behind the name of a program. A name with a slash is a path; any other name is looked
for in the directories of a search path. A file that may be executed names its interpreter in its
first line after `#!`, and the interpreter is given the path of the file before the arguments. Names
and arguments are strings of octets.

* `Tree.located` : the path of a program
* `Tree.invocation` : the tool that runs for it
-/

namespace CrossCheck.Host

/-- Why a program cannot be started. -/
inductive ProgramFault where
  | notFound
  | denied
  /-- The file is executable and names no interpreter, or its chain of interpreters is too long. -/
  | noFormat
  deriving DecidableEq, Repr

/-- What the system says about a program that cannot be started. -/
def ProgramFault.cause : ProgramFault → String
  | .notFound => systemCause "No such file or directory" 2
  | .denied => systemCause "Permission denied" 13
  | .noFormat => systemCause "Exec format error" 8

/-- A tool that is to run. -/
structure Invocation where
  tool : Tool
  /-- The name under which it is started. -/
  name : String
  arguments : List String
  deriving DecidableEq, Repr

/-- The directories in which programs are looked for if nothing else is said. -/
def defaultSearch : String :=
  "/usr/local/sbin:/usr/local/bin:/usr/sbin:/usr/bin:/sbin:/bin"

/-- Interpreters that may stand behind one another. -/
def maxInterpreters : Nat := 5

/-- A space or a tab. -/
def isBlankOctet (c : Char) : Bool :=
  c = ' ' || c = '\t'

/-- The interpreter in the first line of a file, with its one argument if the line has any more. -/
def interpreter? : Octets → Option (String × List String)
  | '#' :: '!' :: content =>
    let line := (content.takeWhile (· ≠ '\n')).dropWhile isBlankOctet
    let name := line.takeWhile fun c => !isBlankOctet c
    let more := ((line.dropWhile fun c => !isBlankOctet c).dropWhile isBlankOctet).reverse
    let argument := (more.dropWhile isBlankOctet).reverse
    if name.isEmpty then none
    else some (.ofList name, if argument.isEmpty then [] else [.ofList argument])
  | _ => none

namespace Tree

/-- A program can be started from a path, or why it cannot. -/
def executable (t : Tree) (directory : List String) (path : String) : Except ProgramFault Unit :=
  match t.findNode directory (textOf path) with
  | .ok (.program _) | .ok (.file _ true) => .ok ()
  | .ok _ => .error .denied
  | .error _ => .error .notFound

/-- The path of a program, given the directories to look in. That one of them holds the file and it
may not be executed is a fault only if no other one holds it. -/
def located (t : Tree) (directory : List String) (search : String) (name : String) :
    Except ProgramFault String :=
  if name.toList.contains '/' then .ok name
  else
    let paths := (splitAt ':' search).map fun d => if d.isEmpty then name else d ++ "/" ++ name
    match paths.find? fun path => (t.executable directory path).toBool with
    | some path => .ok path
    | none =>
      if paths.any fun path => t.executable directory path matches .error .denied then
        .error .denied
      else .error .notFound

/-- What the program at a path runs under a name, with a number of interpreters left to go through.
-/
def invocationAt (t : Tree) (directory : List String) :
    (interpreters : Nat) → (path name : String) → List String → Except ProgramFault Invocation
  | interpreters, path, name, arguments =>
    match t.findNode directory (textOf path) with
    | .error _ => .error .notFound
    | .ok (.program tool) => .ok { tool, name, arguments }
    | .ok (.file content true) =>
      match interpreter? (.ofBytes content), interpreters with
      | some (next, first), interpreters + 1 =>
        t.invocationAt directory interpreters next next (first ++ path :: arguments)
      | _, _ => .error .noFormat
    | .ok _ => .error .denied

/-- What the program at a path runs under a name. -/
def invocation (t : Tree) (directory : List String) (path name : String) (arguments : List String) :
    Except ProgramFault Invocation :=
  t.invocationAt directory maxInterpreters path name arguments

end Tree

/-- The number of octets by which a text is told from other files. -/
def probeLength : Nat := 128

/-- A file without an interpreter is no script: there is a control in its first line that no text
has. -/
def isForeign (content : Octets) : Bool :=
  ((content.take probeLength).takeWhile (· ≠ '\n')).any fun c =>
    (c < ' ' && !('\t' ≤ c && c ≤ '\x0f') && c ≠ '\x1b') || c = '\x7f'

end CrossCheck.Host
