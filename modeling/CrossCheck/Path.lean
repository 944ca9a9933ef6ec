import CrossCheck.OsString

/-!
# Paths

A path is kept as it is given. Only what stands between its slashes matters here.
-/

namespace CrossCheck.Path

/-- The byte of a slash. -/
def slash : UInt8 := 47

/-- The byte of a dot. -/
def dot : UInt8 := 46

/-- A path from the root. -/
def isAbsolute (path : OsString) : Bool :=
  path.bytes.head? = some slash

/-- The path of `name` in the directory `base`. An absolute `name` stands for itself. -/
def join (base name : OsString) : OsString :=
  if isAbsolute name || base.bytes.isEmpty then name
  else if base.bytes.getLast? = some slash then ⟨base.bytes ++ name.bytes⟩
  else ⟨base.bytes ++ slash :: name.bytes⟩

/-- What follows the last item that satisfies `p`, or all if there is none. -/
def afterLast {α : Type} (p : α → Bool) (s : List α) : List α :=
  (s.reverse.takeWhile fun a => !p a).reverse

/-- A character that separates the parts of a path, on any system. -/
def isSeparator (c : Char) : Bool :=
  c = '/' || c = '\\'

/-- The last part of a path that is written in a command line. -/
def baseName (path : List Char) : List Char :=
  afterLast isSeparator path

/-- What follows the last dot of a file name, if anything stands before that dot. -/
def extension? (name : List UInt8) : Option (List UInt8) :=
  match name.reverse.dropWhile (· ≠ dot) with
  | _ :: _ :: _ => some (afterLast (· = dot) name)
  | _ => none

end CrossCheck.Path
