import CrossCheck.Host.Shell.Filename
import CrossCheck.Host.Tool.Call

/-!
# Redirections

A redirection lets a stream of a process lead to another open file. Those of a command are made one
after another in the order in which they are written; the first that cannot be made is the last.

* `Process.openPath` : the open file for a path
* `redirect` : makes redirections
* `Process.restore` : ends them
-/

namespace CrossCheck.Host.Shell

/-- Where a redirection leads to. -/
inductive Target where
  | file (mode : OpenMode) (path : String)
  /-- To where another stream leads, or nowhere. -/
  | copy (source : Option Nat)
  | document (number : Nat)
  deriving DecidableEq, Repr

/-- The stream that a redirection changes. -/
def Redirection.stream : Redirection → Nat
  | .file stream _ _ | .copy stream _ | .document stream _ => stream

/-- A redirection that is ready to be made; `none` if it cannot be one. -/
def Redirection.target? (substitute : Script → Action Octets) :
    Redirection → Action (Option (Nat × Target))
  | .file stream mode path => do
    return some (stream, .file mode (← expandText substitute path))
  | .document stream number => return some (stream, .document number)
  | .copy stream source => do
    match (← expandText substitute source).toList with
    | ['-'] => return some (stream, .copy none)
    | [c] => return if c.isDigit then some (stream, .copy (some (c.toNat - 48))) else none
    | _ => return none

/-- What redirections lead to. -/
def targets (substitute : Script → Action Octets) (rs : List Redirection) :
    Action (List (Nat × Target)) := do
  let ts ← rs.mapM (Redirection.target? substitute)
  let p ← get
  if p.isRunning && ts.contains none then
    set ({ p with line := p.lastRead }.fail "Syntax error: Bad fd number")
  return ts.filterMap id

namespace Process

/-- The place of a new file at a path. -/
def newPlace (p : Process) (path : String) : Except String (List String) :=
  let names := parts (textOf path)
  let start := if isFromRoot path then [] else p.directory
  let t := p.system.tree
  match t.follow maxLinks start names.dropLast, names.getLast? with
  | .ok parent, some name =>
    if t.node? parent ≠ some .directory then .error "Directory nonexistent"
    else if name = "." || path.toList.getLast? = some '/' then .error "Is a directory"
    else .ok (parent ++ [name])
  | .error .loop, _ => .error PathFault.loop.message
  | .error .tooLong, _ => .error PathFault.tooLong.message
  | _, _ => .error "Directory nonexistent"

/-- Opens the file at a path for reading: the number of the open file. -/
def openToRead (p : Process) (path : String) : Except String (Nat × Process) :=
  let opened (channel : Channel) : Except String (Nat × Process) :=
    let (n, system) := p.system.open? { channel, canRead := true }
    .ok (n, { p with system })
  match p.system.tree.find p.directory (textOf path) with
  | .error .notFound | .error .notDirectory => .error "No such file"
  | .error fault => .error fault.message
  | .ok place =>
    match p.system.tree.node? place with
    | some (.file _ _) => opened (.file place)
    | some (.device zeros) => opened (.device zeros)
    | some .directory => opened .directory
    | some (.stream n) =>
      match p.stream? n with
      | some number => .ok (number, p)
      | none => .error "No such file"
    | _ => opened (.device false)

/-- Opens the file at a path for writing: the number of the open file. -/
def openToWrite (p : Process) (mode : OpenMode) (path : String) : Except String (Nat × Process) :=
  let f (channel : Channel) : OpenFile :=
    { channel, canWrite := true, canRead := mode = .both, appends := mode = .append }
  let t := p.system.tree
  let opened (t : Tree) (channel : Channel) : Except String (Nat × Process) :=
    let (n, system) := { p.system with tree := t }.open? (f channel)
    .ok (n, { p with system })
  match t.find p.directory (textOf path) with
  | .ok place =>
    match t.node? place with
    | some (.file content executable) =>
      if mode = .write && p.has 'C' then .error "File exists"
      else
        let content := if mode = .write || mode = .overwrite then [] else content
        opened (t.set place (.file content executable)) (.file place)
    | some (.device zeros) => opened t (.device zeros)
    | some (.stream n) =>
      match p.stream? n with
      | some number => .ok (number, p)
      | none => .error "Directory nonexistent"
    | some .directory => .error "Is a directory"
    | _ => .error "Text file busy"
  | .error .notFound => do
    let place ← p.newPlace path
    opened (t.set place (.file [] false)) (.file place)
  | .error .notDirectory => .error "Directory nonexistent"
  | .error fault => .error fault.message

/-- Opens the file at a path. -/
def openPath (p : Process) (mode : OpenMode) (path : String) : Except String (Nat × Process) :=
  if mode = .read then
    (p.openToRead path).mapError fun message => "cannot open " ++ path ++ ": " ++ message
  else
    (p.openToWrite mode path).mapError fun message => "cannot create " ++ path ++ ": " ++ message

/-- Ends redirections: their streams lead where they led in the process `old`. -/
def restore (p old : Process) (streams : List Nat) : Process :=
  streams.foldl (fun p stream => p.lead stream (old.stream? stream)) p

/-- The process with a stream that leads to a text. -/
def leadToText (p : Process) (stream : Nat) (text : Octets) : Process :=
  let (n, m, system) := p.system.pipe
  { p with system := (system.put? m text).getD system }.lead stream (some n)

end Process

/-- Makes a redirection, and says whether it could be made. -/
def redirectTo (substitute : Script → Action Octets) (stream : Nat) : Target → Action Bool
  | .file mode path => do
    let p ← get
    match p.openPath mode path with
    | .error message =>
      set (p.complain message)
      return false
    | .ok (number, p) =>
      set (p.lead stream (some number))
      return true
  | .copy none => do
    modify fun p => p.lead stream none
    return true
  | .copy (some source) => do
    let p ← get
    match p.stream? source with
    | some number =>
      set (p.lead stream (some number))
      return true
    | none =>
      if source = stream then return true
      set (p.complain (source.repr ++ ": Bad file descriptor"))
      return false
  | .document number => do
    let p ← get
    let text ← expandText substitute ((p.documents.lookup number).getD [])
    let p ← get
    if p.flow = .failed then
      set { p with flow := .running }
      return false
    else
      set (p.leadToText stream text.toList)
      return true

/-- Makes redirections one after another, and says whether all could be made. -/
def redirect (substitute : Script → Action Octets) : List (Nat × Target) → Action Bool
  | [] => return true
  | (stream, target) :: ts => do
    if ← redirectTo substitute stream target then redirect substitute ts else return false

end CrossCheck.Host.Shell
