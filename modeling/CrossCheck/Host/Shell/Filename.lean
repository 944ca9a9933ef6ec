import CrossCheck.Host.Shell.Expansion

/-!
# Patterns of file names

A field with a pattern in it stands for the paths that fit it, if there are any. Every slash of a
path is written in the pattern, and so is a dot at the front of a name.

* `pathsOf` : the paths that a field stands for
* `expandFields` : the fields of words, with the paths in their places
-/

namespace CrossCheck.Host.Shell

/-- The text of marks. -/
def markText (ms : List Mark) : String :=
  .ofList (ms.map Mark.c)

/-- The names in the directory at a path that fit a pattern; the pattern begins with a dot if
`dotted`. -/
def namesFitting (t : Tree) (directory : List String) (path : String) (dotted : Bool)
    (p : Pattern) :
    List String :=
  match t.find directory (if path.isEmpty then "." else textOf path) with
  | .error _ => []
  | .ok place =>
    if t.node? place = some .directory then
      let names := (t.children place).map fun child => octetString child.1
      let names := if dotted then "." :: ".." :: names
        else names.filter fun name => name.toList.head? ≠ some '.'
      names.filter fun name => p.fits name.toList
    else []

/-- The paths that begin with `done` and go on with names that fit patterns. -/
def pathsFrom (t : Tree) (directory : List String) (done : String) : List (List Mark) → List String
  | [] => [done]
  | name :: names =>
    let isLast := names.isEmpty
    let pattern := Pattern.ofMarks name
    if pattern.isOpen then
      let dotted := name.head?.any fun m => m.c = '.'
      (namesFitting t directory done dotted pattern).flatMap fun found =>
        if isLast then [done ++ found] else pathsFrom t directory (done ++ found ++ "/") names
    else if isLast then
      let path := done ++ markText name
      if (t.find directory (textOf path)).toOption.isSome then [path] else []
    else pathsFrom t directory (done ++ markText name ++ "/") names

/-- The paths that a field stands for, or its text if there are none. -/
def pathsOf (t : Tree) (directory : List String) (field : List Mark) : List String :=
  if (Pattern.ofMarks field).isOpen then
    match pathsFrom t directory "" (field.splitOnP fun m => m.c = '/') with
    | [] => [markText field]
    | paths => paths.mergeSort fun a b => decide (a ≤ b)
  else [markText field]

/-- The fields of a word. -/
def expandWord (substitute : Script → Action Octets) (w : Word) : Action (List String) := do
  let gs ← wordGlyphs { substitute, full := true } 0 true w
  let p ← get
  let fields := fieldsOf p.separators gs
  if p.has 'f' then return fields.map markText
  else return fields.flatMap (pathsOf p.system.tree p.directory)

/-- The fields of words. -/
def expandWords (substitute : Script → Action Octets) (ws : List Word) : Action (List String) := do
  return (← ws.mapM (expandWord substitute)).flatten

/-- An argument that is written like an assignment stays one field. -/
def expandAssignment (substitute : Script → Action Octets) (w : Word) : Action (List String) := do
  match assignment? w with
  | some (name, value) => return [name ++ "=" ++ (← expandValue substitute value)]
  | none => expandWord substitute w

end CrossCheck.Host.Shell
