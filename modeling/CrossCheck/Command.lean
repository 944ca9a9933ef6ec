import CrossCheck.Path
import CrossCheck.Text.Whitespace

/-!
# Command lines

A command line is cut into words at white space, without any quoting: the first word is the program,
the others are its first arguments.
-/

namespace CrossCheck

/-- A program and its arguments. -/
structure Command where
  program : String
  arguments : List OsString
  deriving DecidableEq, Repr

namespace Command

/-- The words of a command line. -/
def words (line : String) : List String :=
  (Text.words line.toList).map String.ofList

/-- The command of a command line with further arguments, each taken as it is. A line without any
word is no command. -/
def ofLine? (line : String) (more : List OsString) : Option Command :=
  match words line with
  | [] => none
  | program :: arguments => some { program, arguments := arguments.map .ofText ++ more }

/-- The display name for a command line: the last part of its program's path. -/
def displayName (line : String) : String :=
  .ofList (Path.baseName ((Text.words line.toList).headD []))

end Command

end CrossCheck
