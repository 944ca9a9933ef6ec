import CrossCheck.Path
import CrossCheck.Text.LetterCase

/-!
# Images

What a path stands for: itself, if it is no directory; otherwise the images in the directory, which
are its files with a configured extension, in the order of their names. Subdirectories are not
searched.
-/

namespace CrossCheck

/-- What a directory holds under a name. -/
structure Entry where
  name : OsString
  /-- The name leads to a regular file, through symbolic links or not. -/
  isFile : Bool
  deriving DecidableEq, Repr

/-- What a path leads to. Where there is a cause, it is what the system says. -/
inductive Place where
  | nothing (cause : String)
  /-- Anything but a directory. -/
  | file
  /-- A directory that cannot be listed. -/
  | unlistable (cause : String)
  | directory (entries : List Entry)
  deriving Repr

/-- Why there are no images to visit. -/
inductive ImageError where
  | inaccessible (path : OsString) (cause : String)
  | unlistable (path : OsString) (cause : String)
  deriving DecidableEq, Repr

/-- The wordings of an error and of its cause. -/
def ImageError.messages : ImageError → List String
  | .inaccessible path cause => ["cannot access " ++ path.display, cause]
  | .unlistable path cause => ["cannot read directory " ++ path.display, cause]

namespace Images

/-- A name that starts with a dot. Such files, sidecars of other systems among them, are no images.
-/
def isHidden (name : OsString) : Bool :=
  name.bytes.head? = some Path.dot

/-- The name has one of the extensions, in any letter case. What is no text is no extension. -/
def hasExtension (extensions : List String) (name : OsString) : Bool :=
  ((Path.extension? name.bytes).bind Text.Utf8.decode?).any fun e =>
    extensions.any fun wanted => Text.sameLetters wanted.toList e

/-- An entry of a directory is an image. -/
def isImage (extensions : List String) (e : Entry) : Bool :=
  !isHidden e.name && e.isFile && hasExtension extensions e.name

/-- The paths of the images in the directory at `path`, in the order of their names. -/
def ofEntries (path : OsString) (extensions : List String) (entries : List Entry) :
    List OsString :=
  ((entries.filter (isImage extensions)).mergeSort fun a b => decide (a.name ≤ b.name)).map
    fun e => Path.join path e.name

/-- The images that a path stands for. -/
def find (look : OsString → Place) (path : OsString) (extensions : List String) :
    Except ImageError (List OsString) :=
  match look path with
  | .nothing cause => .error (.inaccessible path cause)
  | .file => .ok [path]
  | .unlistable cause => .error (.unlistable path cause)
  | .directory entries => .ok (ofEntries path extensions entries)

end Images

end CrossCheck
