import CrossCheck.Host.Octets
import CrossCheck.Host.Tree

/-!
# Open files

What processes share: the tree, and the files that are open. Several streams of several processes
may lead to one open file and so share the position in it. What is written into a pipe stays there
until it is read; that all of its writers have come to their end is known by the order in which
processes run.

* `System.start` : a system with two pipes, for the standard output and the standard error
* `System.pending` : what can be read from an open file
* `System.take` : goes on past some of it
* `System.put?` : writes at the end or at the position
-/

namespace CrossCheck.Host

/-- Where an open file leads. -/
inductive Channel where
  | pipe (number : Nat)
  | file (place : List String)
  | device (zeros : Bool)
  | directory
  deriving DecidableEq, Repr

/-- A file that is open. -/
structure OpenFile where
  channel : Channel
  position : Nat := 0
  canRead : Bool := false
  canWrite : Bool := false
  /-- What is written goes to the end of the file. -/
  appends : Bool := false
  deriving DecidableEq, Repr

/-- What was written into a pipe and is not read yet. -/
structure Pipe where
  front : Octets := []
  /-- What was written after the front, in pieces, the last one first. -/
  back : List Octets := []
  deriving Repr

namespace Pipe

/-- All that is in a pipe. -/
def content (p : Pipe) : Octets :=
  if p.back.isEmpty then p.front else p.front ++ p.back.reverse.flatten

/-- The pipe with more in it. -/
def push (p : Pipe) (s : Octets) : Pipe :=
  { p with back := s :: p.back }

/-- The pipe without the first `n` octets. -/
def drop (p : Pipe) (n : Nat) : Pipe where
  front := p.content.drop n

end Pipe

/-- What processes share. -/
structure System where
  tree : Tree
  pipes : Array Pipe
  opened : Array OpenFile
  /-- The number of the next process. -/
  nextProcess : Nat := 1
  /-- Signals that were sent to a process and have not come to it yet. -/
  signals : List (Nat × Nat) := []
  /-- What processes beside the others write into which pipe, and have not written yet. Some of it
  comes promptly. -/
  late : List (Bool × Nat × Octets) := []

/-- The octets that a device gives that has no end. -/
def endless : Nat := 131072

namespace System

/-- A system in which nothing runs yet. Its open files 0, 1 and 2 are an empty input and the two
pipes of the output. -/
def start (tree : Tree) : System where
  tree := tree
  pipes := #[{}, {}]
  opened := #[{ channel := .device false, canRead := true },
    { channel := .pipe 0, canWrite := true }, { channel := .pipe 1, canWrite := true }]

/-- Opens a file: its number, and the system with it. -/
def open? (s : System) (f : OpenFile) : Nat × System :=
  (s.opened.size, { s with opened := s.opened.push f })

/-- Makes a pipe: the numbers of its two ends, the one to read from first. -/
def pipe (s : System) : Nat × Nat × System :=
  let channel := Channel.pipe s.pipes.size
  let n := s.opened.size
  (n, n + 1,
    { s with
      pipes := s.pipes.push {}
      opened := (s.opened.push { channel, canRead := true }).push { channel, canWrite := true } })

/-- The content of the file at a place. -/
def fileContent (s : System) (place : List String) : List UInt8 :=
  match s.tree.node? place with
  | some (.file content _) => content
  | _ => []

/-- What can be read from an open file; `none` if nothing can. -/
def pending (s : System) (number : Nat) : Option Octets := do
  let f ← s.opened[number]?
  guard f.canRead
  match f.channel with
  | .pipe n => return ((s.pipes[n]?).getD {}).content
  | .file place => return .ofBytes ((s.fileContent place).drop f.position)
  | .device true => return List.replicate endless '\x00'
  | .device false => return []
  | .directory => none

/-- Goes on past `n` octets of an open file. -/
def take (s : System) (number n : Nat) : System :=
  match s.opened[number]? with
  | some { channel := .pipe p, .. } =>
    { s with pipes := s.pipes.modify p fun q => q.drop n }
  | some _ =>
    { s with opened := s.opened.modify number fun f => { f with position := f.position + n } }
  | none => s

/-- Writes to an open file, unless it cannot be written to. -/
def put? (s : System) (number : Nat) (text : Octets) : Option System := do
  let f ← s.opened[number]?
  guard f.canWrite
  match f.channel with
  | .pipe n => return { s with pipes := s.pipes.modify n fun p => p.push text }
  | .file place =>
    match s.tree.node? place with
    | some (.file content executable) =>
      let position := if f.appends then content.length else f.position
      let gap := List.replicate (position - content.length) 0
      let after := content.drop (position + text.length)
      let content := content.take position ++ gap ++ Octets.toBytes text ++ after
      return { s with
        tree := s.tree.set place (.file content executable)
        opened := s.opened.modify number fun f =>
          { f with position := position + text.length } }
    | _ => return s
  | _ => return s

/-- Takes back what was written into pipes since the system was `old`, so that it is written later.
-/
def delay (s old : System) (prompt : Bool) : System :=
  let pieces (i : Nat) (p : Pipe) : Nat :=
    p.back.length - ((old.pipes[i]?).map fun q => q.back.length).getD p.back.length
  let late := s.pipes.toList.zipIdx.flatMap fun (p, i) =>
    ((p.back.take (pieces i p)).reverse).map fun text => (prompt, i, text)
  { s with
    pipes := s.pipes.mapIdx fun i p => { p with back := p.back.drop (pieces i p) }
    late := s.late ++ late }

/-- Writes what is to be written later, or only what comes promptly. -/
def release (s : System) (onlyPrompt : Bool) : System :=
  let (now, later) := s.late.partition fun w => w.1 || !onlyPrompt
  { s with
    pipes := now.foldl (fun pipes w => pipes.modify w.2.1 fun p => p.push w.2.2) s.pipes
    late := later }

/-- All that was written into a pipe. -/
def written (s : System) (pipe : Nat) : Octets :=
  ((s.pipes[pipe]?).getD {}).content

/-- A number for a new process, and the system that has given it away. -/
def newProcess (s : System) : Nat × System :=
  (s.nextProcess, { s with nextProcess := s.nextProcess + 1 })

end System

end CrossCheck.Host
