import CrossCheck.Host.Shell.Builtin.Basic

/-!
# The commands `cd` and `pwd`

A shell knows its directory by the path on which it came there: `..` leads back to where it came
from, even behind a symbolic link.
-/

namespace CrossCheck.Host.Shell

/-- The path that leads from the directory at a path to another one. -/
def logicalPath (current path : String) : String :=
  let isAbsolute := isFromRoot path
  let names (s : String) : List String := (splitAt '/' s).filter fun name => !name.isEmpty
  let start := if isAbsolute then [] else names current
  let place := (names path).foldl (fun place name =>
    if name = "." then place
    else if name = ".." then place.dropLast
    else place ++ [name]) start
  let slashes := (if isAbsolute then path else current).toList.takeWhile (· = '/')
  (if slashes.length = 2 then "//" else "/") ++ "/".intercalate place

/-- Goes to the directory at a path, if it is one. -/
def Process.go? (p : Process) (physical : Bool) (path : String) : Option Process := do
  let path := if physical then path else logicalPath p.path path
  let place ← (p.system.tree.find p.directory (textOf path)).toOption
  guard (p.system.tree.node? place = some .directory)
  let path := if physical then "/" ++ "/".intercalate (place.map octetString) else path
  let q := ({ p with directory := place, path }.assignExported "OLDPWD" p.path)
  return q.assignExported "PWD" path

/-- A path that is not looked for in other directories. -/
def isRooted (path : String) : Bool :=
  let first := (path.toList.takeWhile (· ≠ '/'))
  isFromRoot path || first = ['.'] || first = ['.', '.']

/-- Changes the directory. -/
def cd (ws : List String) : Action Nat :=
  withOptions (flags "LP") ws fun o => do
    let p ← get
    let physical := (o.given.getLast?.map Given.letter) = some 'P'
    let back := o.operands.head? = some "-"
    let target := match o.operands with
      | [] => p.value "HOME"
      | "-" :: _ => p.value "OLDPWD"
      | path :: _ => path
    let path := if target.isEmpty then "." else target
    let roots := match p.value? "CDPATH" with
      | some s => if isRooted path then [] else splitAt ':' s
      | none => []
    let candidates := roots.map fun root =>
      (if root.isEmpty then path else root ++ "/" ++ path, !root.isEmpty)
    let found := (candidates ++ [(path, false)]).findSome? fun c =>
      (p.go? physical c.1).map fun q => (q, c.2)
    match found with
    | some (q, isShown) =>
      set q
      if back || isShown then put (q.path ++ "\n")
      return if q.isRunning then 0 else 2
    | none => failing ("can't cd to " ++ target)

/-- Writes the path of the directory. -/
def pwd (ws : List String) : Action Nat :=
  withOptions (flags "LP") ws fun o => do
    let p ← get
    let physical := (o.given.getLast?.map Given.letter) = some 'P'
    let path := if physical then "/" ++ "/".intercalate (p.directory.map octetString) else p.path
    put (path ++ "\n")
    return 0

end CrossCheck.Host.Shell
