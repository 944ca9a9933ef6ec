import CrossCheck.Images
import CrossCheck.Settings.Load
import CrossCheck.Text.Utf8

/-!
# File trees

A tree of files in memory. A node stands at an absolute path, which is a list of names. Symbolic
links are followed wherever they stand in a path, up to `maxLinks` of them, so that finding a node
ends.
-/

namespace CrossCheck.Host

/-- The programs that a tree may hold. -/
inductive Tool where
  | shell
  | echo
  | cat
  | printf
  | succeed
  | fail
  | sed
  | head
  | tr
  | rm
  deriving DecidableEq, Repr

/-- The names of the programs. -/
def Tool.names : List (String × Tool) :=
  [("sh", .shell), ("echo", .echo), ("cat", .cat), ("printf", .printf), ("true", .succeed),
    ("false", .fail), ("sed", .sed), ("head", .head), ("tr", .tr), ("rm", .rm)]

/-- What stands at a path. -/
inductive Node where
  | directory
  | file (content : List UInt8) (executable : Bool)
  | link (target : String)
  | program (tool : Tool)
  /-- A device that swallows what is written to it; reading it gives nothing or endless zeros. -/
  | device (zeros : Bool)
  /-- Whatever a stream of the process that asks leads to. -/
  | stream (number : Nat)
  deriving DecidableEq, Repr

/-- A tree: the nodes below its root. -/
structure Tree where
  nodes : List (List String × Node)
  deriving Repr

/-- Why a path leads nowhere. -/
inductive PathFault where
  | notFound
  | notDirectory
  | loop
  /-- The path, or a name in it, is too long. -/
  | tooLong
  /-- There is a NUL in the path. -/
  | invalid
  deriving DecidableEq, Repr

/-- The wording of a fault of a path. -/
def PathFault.message : PathFault → String
  | .notFound => "No such file or directory"
  | .notDirectory => "Not a directory"
  | .loop => "Too many levels of symbolic links"
  | .tooLong => "File name too long"
  | .invalid => "Invalid argument"

/-- The number of a fault of a path. -/
def PathFault.number : PathFault → Nat
  | .notFound => 2
  | .notDirectory => 20
  | .loop => 40
  | .tooLong => 36
  | .invalid => 22

/-- What the system says of an error with a number. -/
def systemCause (message : String) (number : Nat) : String :=
  message ++ " (os error " ++ number.repr ++ ")"

/-- What the program is told about a fault of a path. The system is not asked about a NUL. -/
def PathFault.cause (f : PathFault) : String :=
  if f = .invalid then "file name contained an unexpected NUL byte"
  else systemCause f.message f.number

/-- A path from the root. -/
def isFromRoot (path : String) : Bool :=
  path.toList.head? = some '/'

/-- Links that are followed on one path. -/
def maxLinks : Nat := 40

/-- The names of a path between its slashes. A slash at the end stands for the directory itself. -/
def parts (path : String) : List String :=
  let names := (path.toList.splitOn '/').map String.ofList
  names.filter (fun name => !name.isEmpty) ++
    if path.toList.getLast? = some '/' then ["."] else []

/-- The number of bytes that a name may have. -/
def maxNameBytes : Nat := 255

/-- The number of bytes that a path may have. -/
def maxPathBytes : Nat := 4095

namespace Tree

/-- The node at an absolute path. -/
def node? (t : Tree) (place : List String) : Option Node :=
  if place.isEmpty then some .directory else t.nodes.lookup place

/-- Follows names from a place, with a number of links left to follow. -/
def follow (t : Tree) (links : Nat) (place : List String) (names : List String) :
    Except PathFault (List String) :=
  match names with
  | [] => .ok place
  | name :: names =>
    if t.node? place ≠ some .directory then .error .notDirectory
    else if name = "." then t.follow links place names
    else if name = ".." then t.follow links place.dropLast names
    else if maxNameBytes < name.utf8ByteSize then .error .tooLong
    else
      match t.node? (place ++ [name]), links with
      | none, _ => .error .notFound
      | some (.link _), 0 => .error .loop
      | some (.link target), links + 1 =>
        t.follow links (if isFromRoot target then [] else place) (parts target ++ names)
      | some _, links => t.follow links (place ++ [name]) names
  termination_by (links, names.length)

/-- The place that a path leads to from a directory. -/
def find (t : Tree) (directory : List String) (path : String) : Except PathFault (List String) :=
  if path.isEmpty then .error .notFound
  else if path.toList.contains '\x00' then .error .invalid
  else if maxPathBytes < path.utf8ByteSize then .error .tooLong
  else t.follow maxLinks (if isFromRoot path then [] else directory) (parts path)

/-- The node that a path leads to from a directory. -/
def findNode (t : Tree) (directory : List String) (path : String) : Except PathFault Node := do
  let place ← t.find directory path
  match t.node? place with
  | some node => return node
  | none => .error .notFound

/-- The tree with a node set at a place. -/
def set (t : Tree) (place : List String) (node : Node) : Tree where
  nodes := t.nodes.filter (fun entry => entry.1 ≠ place) ++ [(place, node)]

/-- The tree without what stands at or below a place. -/
def erase (t : Tree) (place : List String) : Tree where
  nodes := t.nodes.filter fun entry => !place.isPrefixOf entry.1

/-- Enters the directory of a name, which is made if there is none. -/
def enter (here : Tree × List String) (name : String) : Tree × List String :=
  match here.1.follow maxLinks here.2 [name] with
  | .ok place => (here.1, place)
  | .error _ => (here.1.set (here.2 ++ [name]) .directory, here.2 ++ [name])

/-- The tree with a node put at a path from a directory. Missing directories on the way are made,
and a directory that exists stays. -/
def put (t : Tree) (directory : List String) (path : String) (node : Node) : Tree :=
  let names := parts path
  let start := if isFromRoot path then [] else directory
  match node with
  | .directory => (names.foldl enter (t, start)).1
  | node =>
    let (t, place) := names.dropLast.foldl enter (t, start)
    let name := names.getLast?.toList
    t.set ((t.follow maxLinks place name).toOption.getD (place ++ name)) node

/-- The names in a directory, each with its node. -/
def children (t : Tree) (place : List String) : List (String × Node) :=
  t.nodes.filterMap fun entry =>
    match entry.1.getLast? with
    | some name => if entry.1.dropLast = place then some (name, entry.2) else none
    | none => none

/-- A node that is a regular file. -/
def isFile : Node → Bool
  | .file _ _ => true
  | .program _ => true
  | _ => false

/-- The place that a path of any bytes leads to. All names in the tree are text. -/
def findBytes (t : Tree) (directory : List String) (path : OsString) :
    Except PathFault (List String) :=
  match path.text? with
  | some text => t.find directory text
  | none => .error .notFound

/-- The node that a path of any bytes leads to. -/
def findNodeBytes (t : Tree) (directory : List String) (path : OsString) :
    Except PathFault Node :=
  match path.text? with
  | some text => t.findNode directory text
  | none => .error .notFound

/-- What a path leads to, for the search for images. -/
def look (t : Tree) (directory : List String) (path : OsString) : Place :=
  match t.findBytes directory path with
  | .error f => .nothing f.cause
  | .ok place =>
    match t.node? place with
    | some .directory =>
      .directory <| (t.children place).map fun child =>
        { name := child.1
          isFile := (t.findNodeBytes directory (Path.join path child.1)).toOption.any isFile }
    | _ => .file

/-- The text of the file at a path. -/
def read (t : Tree) (directory : List String) (path : OsString) : FileText :=
  match t.findNodeBytes directory path with
  | .error .notFound => .absent
  | .error f => .unreadable f.cause
  | .ok (.file content _) =>
    match Text.Utf8.decode? content with
    | some s => .text (.ofList s)
    | none => .unreadable "stream did not contain valid UTF-8"
  | .ok (.device false) => .text ""
  | .ok .directory => .unreadable (systemCause "Is a directory" 21)
  | .ok _ => .unreadable "stream did not contain valid UTF-8"

end Tree

/-- The names of the standard streams. -/
def streamNames : List (String × Nat) :=
  [("stdin", 0), ("stdout", 1), ("stderr", 2)]

/-- The tree that every host has: its programs and devices. -/
def baseTree : Tree where
  nodes :=
    [(["bin"], .directory), (["dev"], .directory), (["dev", "fd"], .directory),
      (["tmp"], .directory), (["usr"], .directory), (["usr", "bin"], .directory),
      (["dev", "null"], .device false), (["dev", "zero"], .device true)] ++
    streamNames.map (fun s => (["dev", s.1], .stream s.2)) ++
    (List.range 10).map (fun n => (["dev", "fd", n.repr], .stream n)) ++
    Tool.names.flatMap fun tool =>
      [(["bin", tool.1], .program tool.2), (["usr", "bin", tool.1], .program tool.2)]

end CrossCheck.Host
