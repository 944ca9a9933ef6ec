import CrossCheck.Host.Tool.Call
import CrossCheck.Host.Tool.Quoted

/-!
# The tool `rm`
-/

namespace CrossCheck.Host

/-- How files are removed. -/
structure Removal where
  /-- That there is no such file is no fault. -/
  force : Bool
  /-- Directories are removed with all that is in them. -/
  deep : Bool
  /-- Empty directories are removed. -/
  empty : Bool
  verbose : Bool

namespace Call

/-- The options of `rm`. -/
def rmForms : List OptionForm :=
  [⟨'d', "dir", .absent⟩, ⟨'f', "force", .absent⟩, ⟨'i', "", .absent⟩, ⟨'I', "", .absent⟩,
    ⟨'r', "recursive", .absent⟩, ⟨'R', "", .absent⟩, ⟨'v', "verbose", .absent⟩]

/-- What is said about nodes that are removed: those in a directory come before it. -/
def removed (c : Call) (place : List String) (path : String) : List String :=
  let inside := c.tree.nodes.filter fun entry =>
    place.isPrefixOf entry.1 && entry.1.length ≠ place.length
  (inside.reverse.map fun entry =>
    let shown := path ++ "/" ++ octetString ("/".intercalate (entry.1.drop place.length))
    (if entry.2 = .directory then "removed directory " else "removed ") ++ Quoted.pathOf shown) ++
  [(if c.tree.node? place = some .directory then "removed directory " else "removed ") ++
    Quoted.pathOf path]

/-- Removes what stands at a path. -/
def remove (r : Removal) (c : Call) (path : String) : Effect :=
  let names := parts (textOf path)
  let names := if names.getLast? = some "." && path.toList.getLast? = some '/' then names.dropLast
    else names
  let start := if isFromRoot path then [] else c.directory
  let last := names.getLast?.getD ""
  if r.deep && (last = "." || last = "..") then
    c.complain ("refusing to remove '.' or '..' directory: skipping " ++ Quoted.pathOf path) 1
  else if r.deep && names.isEmpty && isFromRoot path then
    (c.complain "it is dangerous to operate recursively on '/'" 1).join
      (c.complain "use --no-preserve-root to override this failsafe" 1)
  else
    let refuse (message : String) : Effect :=
      c.complain ("cannot remove " ++ Quoted.pathOf path ++ ": " ++ message) 1
    let parent := if path.isEmpty then .error .notFound
      else c.tree.follow maxLinks start names.dropLast
    match parent with
    | .error fault =>
      if r.force && (fault = .notFound || fault = .notDirectory) then c.idle
      else refuse fault.message
    | .ok parent =>
      let place := if last = "." then parent else if last = ".." then parent.dropLast
        else parent ++ [last]
      match c.tree.node? parent, c.tree.node? place with
      | some .directory, some node =>
        let isEmpty := (c.tree.children place).isEmpty
        if node = .directory && !r.deep && !r.empty then refuse "Is a directory"
        else if node = .directory && !r.deep && !isEmpty then refuse "Directory not empty"
        else if node ≠ .directory && path.toList.getLast? = some '/' then refuse "Not a directory"
        else
          { out := if r.verbose then
              (c.removed place path).flatMap fun line => (line ++ "\n").toList else []
            tree := c.tree.erase place }
      | some .directory, none =>
        if r.force then c.idle
        else if maxNameBytes < last.utf8ByteSize then refuse PathFault.tooLong.message
        else refuse PathFault.notFound.message
      | _, _ => if r.force then c.idle else refuse PathFault.notDirectory.message

/-- Removes files. -/
def rm (c : Call) : Effect :=
  match Options.read rmForms c.arguments with
  | .error ⟨fault, _⟩ => c.misuse fault.message 1
  | .ok o =>
    let r : Removal :=
      { force := o.has 'f', deep := o.has 'r' || o.has 'R', empty := o.has 'd'
        verbose := o.has 'v' }
    if o.operands.isEmpty then if r.force then c.idle else c.misuse "missing operand" 1
    else c.eachFile (remove r) o.operands

end Call

end CrossCheck.Host
