/-!
# Shell scripts

The commands of a script, and the words that they are made of. A word consists of parts, some of
which stand for what is known only when the script runs: parameters, arithmetic, and the output of
other scripts. What stands in for a part without quotes is cut into several words.

The text of a here-document comes after the line that asks for it, so a redirection names the
document by a number, and the documents of a script are kept beside it.
-/

namespace CrossCheck.Host.Shell

/-- What `-`, `+`, `=` and `?` in braces make of a parameter that is set or not. -/
inductive Alternative where
  /-- The word takes the place of a parameter that is not set. -/
  | otherwise
  /-- The word takes the place of a parameter that is set. -/
  | instead
  /-- The word is assigned to a parameter that is not set. -/
  | assigned
  /-- A parameter that is not set is an error, and the word says so. -/
  | complaint
  deriving DecidableEq, Repr

/-- How a file is opened for a redirection. -/
inductive OpenMode where
  | read
  | write
  /-- Empties a file that exists even where that is forbidden. -/
  | overwrite
  | append
  | both
  deriving DecidableEq, Repr

mutual

/-- A part of a word. -/
inductive Part where
  | char (quoted : Bool) (c : Char)
  /-- A pair of quotes, or one of the two, which makes a word even of nothing. -/
  | quotes
  | parameter (quoted : Bool) (name : String) (use : Use)
  | arithmetic (quoted : Bool) (expression : List Part)
  | output (quoted : Bool) (script : Script)

/-- What is made of the value of a parameter. -/
inductive Use where
  | value
  | length
  /-- What stands in the braces makes no sense. -/
  | senseless
  /-- With `orEmpty` an empty parameter counts as one that is not set. -/
  | alternative (kind : Alternative) (orEmpty : Bool) (w : List Part)
  /-- The value without its shortest or longest end or beginning that fits a pattern. -/
  | trim (atEnd longest : Bool) (pattern : List Part)

/-- A change of where a stream leads. -/
inductive Redirection where
  | file (stream : Nat) (mode : OpenMode) (path : List Part)
  | copy (stream : Nat) (source : List Part)
  | document (stream number : Nat)

/-- The commands of a script. `line` is the number of the line on which a command stands. -/
inductive Script where
  | nothing
  /-- A command with the variables that are set for it. -/
  | simple (line : Nat) (assignments words : List (List Part)) (redirections : List Redirection)
  | pipeline (parts : List Script)
  | sequence (first second : Script)
  /-- The second part runs if the first succeeds. -/
  | both (first second : Script)
  /-- The second part runs if the first fails. -/
  | either (first second : Script)
  | negation (s : Script)
  /-- A part that runs by itself and whose status does not count. -/
  | background (s : Script)
  /-- Runs the body as long as the condition succeeds or, `inverted`, as long as it fails. -/
  | loop (inverted : Bool) (condition body : Script)
  | branch (condition yes : Script) (no : Option Script)
  | each (line : Nat) (name : String) (words : List (List Part)) (body : Script)
  | choice (line : Nat) (w : List Part) (arms : List (List (List Part) × Script))
  /-- Commands in parentheses, which run in a process of their own. -/
  | subshell (line : Nat) (body : Script) (redirections : List Redirection)
  | redirected (line : Nat) (body : Script) (redirections : List Redirection)
  | function (line : Nat) (name : String) (body : Script)

end

/-- A word. -/
abbrev Word := List Part

/-- The character of a part that is one without quotes. -/
def Part.plain? : Part → Option Char
  | .char false c => some c
  | _ => none

/-- The text of a word that has only plain characters. -/
def plain? (w : Word) : Option String :=
  (w.mapM Part.plain?).map String.ofList

/-- The characters of a word without its quotes. Parts that stand for something else are left out.
-/
def literalText (w : Word) : List Char :=
  w.filterMap fun part =>
    match part with
    | .char _ c => some c
    | _ => none

/-- A character with which a variable's name may begin. -/
def isNameStart (c : Char) : Bool :=
  c.isAlpha || c = '_'

/-- A character of a variable's name. -/
def isNameChar (c : Char) : Bool :=
  c.isAlphanum || c = '_'

/-- A variable's name. -/
def isName (s : List Char) : Bool :=
  s.head?.any isNameStart && s.all isNameChar

/-- The variable and the value of a word that is an assignment. -/
def assignment? (w : Word) : Option (String × Word) :=
  let name := w.takeWhile fun part => part.plain?.any isNameChar
  match w.drop name.length, plain? name with
  | .char false '=' :: value, some text => if isName text.toList then some (text, value) else none
  | _, _ => none

end CrossCheck.Host.Shell
