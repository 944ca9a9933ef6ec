import CrossCheck.Host.Octets
import CrossCheck.Host.Shell.Script

/-!
# The text of a script

A reader of a script stands at a place in its text. It may hold a token that it has read too early,
and it knows the here-documents whose text comes after the line that it is on.

* `Source.peek` and `Source.advance` : the next character, and past it
* `Source.token` : the next word or operator, in the module for tokens
-/

namespace CrossCheck.Host.Shell

/-- A word or an operator of a script. -/
inductive Token where
  | word (w : Word)
  | operator (text : String)
  /-- The operator of a redirection, and the number of the stream before it. -/
  | redirect (stream : Option Nat) (text : String)
  | ended

/-- Why a text is no script. -/
inductive SyntaxCause where
  | unexpected (found : String)
  | missing (found expected : String)
  | openQuotes
  | openBrace
  | openArithmetic
  | openBackquotes
  | badLoopVariable
  | badFunctionName
  deriving DecidableEq, Repr

/-- A place where a text is no script. -/
structure SyntaxFault where
  line : Nat
  cause : SyntaxCause
  deriving DecidableEq, Repr

/-- The wording of a fault. -/
def SyntaxCause.message : SyntaxCause → String
  | .unexpected found => found ++ " unexpected"
  | .missing found expected => found ++ " unexpected (expecting " ++ expected ++ ")"
  | .openQuotes => "Unterminated quoted string"
  | .openBrace => "Missing '\x7d'"
  | .openArithmetic => "Missing '))'"
  | .openBackquotes => "EOF in backquote substitution"
  | .badLoopVariable => "Bad for loop variable"
  | .badFunctionName => "Bad function name"

/-- A here-document whose text is still to come. -/
structure Awaited where
  number : Nat
  /-- The line that ends the document. -/
  delimiter : List Char
  /-- Nothing in the document stands for anything else. -/
  isLiteral : Bool
  /-- Tabs at the front of lines do not count. -/
  dropsTabs : Bool

/-- The text of an alias that stands in the place of its name. -/
structure Unfolding where
  name : String
  /-- The length of what comes after the text. -/
  after : Nat
  /-- The text ends in a blank: the word behind it may be an alias too. -/
  endsBlank : Bool

/-- A place in the text of a script. -/
structure Source where
  rest : Octets
  line : Nat := 1
  held : Option Token := none
  /-- The word that was read last. -/
  lastWord : Word := []
  awaited : List Awaited := []
  /-- The text of the awaited here-documents comes next. -/
  isDue : Bool := false
  /-- The here-documents that have been read. -/
  documents : List (Nat × Word) := []
  nextDocument : Nat := 0
  /-- Words that stand for other texts at the front of a command. -/
  aliases : List (String × String) := []
  /-- The aliases whose text is being read. -/
  unfoldings : List Unfolding := []
  /-- The here-document that is being read. -/
  document : Option Awaited := none

/-- A reader of scripts. -/
abbrev Read := StateT Source (Except SyntaxFault)

/-- Drops the escaped newlines at the front of a text, and counts them up from `line`. -/
def dropJoins : (line : Nat) → List Char → List Char × Nat
  | line, '\\' :: '\n' :: s => dropJoins (line + 1) s
  | line, s => (s, line)

namespace Source

/-- Gives up. -/
def fail {α : Type} (cause : SyntaxCause) : Read α := do
  throw { line := (← get).line, cause }

/-- The next character, behind newlines that are escaped. -/
def peek : Read (Option Char) := do
  let s ← get
  let (rest, line) := dropJoins s.line s.rest
  set { s with rest, line }
  return rest.head?

/-- Goes past one character. -/
def advance : Read Unit :=
  modify fun s =>
    { s with rest := s.rest.tail, line := if s.rest.head? = some '\n' then s.line + 1 else s.line }

/-- Reads the characters at the front that satisfy `p`. -/
def takeWhile (p : Char → Bool) : Read (List Char) := do
  let s ← get
  let taken := s.rest.takeWhile p
  set { s with rest := s.rest.drop taken.length, line := s.line + taken.count '\n' }
  return taken

/-- Goes past a character if it is the next one, and says whether it was. -/
def skips (c : Char) : Read Bool := do
  if (← peek) = some c then
    advance
    return true
  else return false

/-- Puts a token back. -/
def hold (t : Token) : Read Unit :=
  modify fun s => { s with held := some t }

/-- Reads another text, which begins at a line, with a reader and then goes on where it was. -/
def within {α : Type} (line : Nat) (text : List Char) (reader : Read α) : Read α := do
  let before ← get
  let inUse := before.unfoldings.filter fun u => u.after ≤ before.rest.length
  let unfoldings := inUse.map fun u => { u with after := 0, endsBlank := false }
  set { before with rest := text, line, held := none, unfoldings, document := none }
  let a ← reader
  modify fun s =>
    { s with
      rest := before.rest, line := before.line, held := before.held
      unfoldings := before.unfoldings, document := before.document }
  return a

/-- Goes past the line that ends the here-document that is being read, if it comes next, and says
whether it did. Of any other line only the tabs are dropped that do not count. -/
def skipsMark : Read Bool := do
  match (← get).document with
  | none => return false
  | some d =>
    if !d.isLiteral then
      let _ ← peek
    let s ← get
    let rest := if d.dropsTabs then s.rest.dropWhile (· = '\t') else s.rest
    match d.delimiter.isPrefixOf rest, rest.drop d.delimiter.length with
    | true, [] =>
      set { s with rest := [] }
      return true
    | true, '\n' :: rest =>
      set { s with rest, line := s.line + 1 }
      return true
    | _, _ =>
      set { s with rest }
      return false

end Source

end CrossCheck.Host.Shell
