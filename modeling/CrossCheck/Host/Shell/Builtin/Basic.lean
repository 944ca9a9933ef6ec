import CrossCheck.Host.Shell.Process
import CrossCheck.Host.Tool.Call

/-!
# Commands of the shell: what they share

A command of the shell itself is an action with a status. What it writes is kept until its end, so
that its messages come first.

* `put` : writes
* `failing` and `refusing` : an error, and a message of a command that goes on
* `withOptions` : what is done with the options among the arguments
-/

namespace CrossCheck.Host.Shell

/-- Writes to the standard output. -/
def put (s : String) : Action Unit :=
  modify fun p => { p with unwritten := p.unwritten ++ s.toList }

/-- Ends with an error. -/
def failing (message : String) : Action Nat := do
  modify fun p => p.fail message
  return 2

/-- Ends with a message and a status. -/
def refusing (message : String) (status : Nat) : Action Nat := do
  modify fun p => p.complain message
  return status

/-- The number that a word stands for. It may have a sign, and blanks around it. -/
def number? (word : String) : Option Nat :=
  let isBlank (c : Char) : Bool := c = ' ' || ('\t' ≤ c && c ≤ '\r')
  let s := ((word.toList.dropWhile isBlank).reverse.dropWhile isBlank).reverse
  match s with
  | '-' :: digits => (natural? digits).filter (· = 0)
  | '+' :: digits => (natural? digits).filter (· < 1 <<< 31)
  | digits => (natural? digits).filter (· < 1 <<< 31)

/-- Does something with the number that a word stands for. -/
def withNumber (word : String) (f : Nat → Action Nat) : Action Nat :=
  match number? word with
  | some n => f n
  | none => failing ("Illegal number: " ++ word)

/-- Does something with the options in front of the other arguments, and with those. -/
def withOptions (letters : List OptionForm) (ws : List String)
    (f : Options → Action Nat) : Action Nat :=
  match Options.readStrict letters ws with
  | .ok o => f o
  | .error ⟨.needsValue letter, _⟩ => failing ("No arg for -" ++ .singleton letter ++ " option")
  | .error ⟨.invalid letter, _⟩ => failing ("Illegal option -" ++ .singleton letter)
  | .error _ => failing "Illegal option --"

/-- Options without values. -/
def flags (letters : String) : List OptionForm :=
  letters.toList.map fun letter => ⟨letter, "", .absent⟩

/-- Does something with each word in turn; the result is the greatest status. -/
def eachWord (f : String → Action Nat) : List String → Action Nat
  | [] => return 0
  | w :: ws => do
    let status ← f w
    if !(← get).isRunning then return status
    return max status (← eachWord f ws)

/-- A text in quotes that the shell takes for that text. -/
def singleQuoted (s : String) : String :=
  let runs := s.toList.splitBy fun a b => (a = '\'') = (b = '\'')
  if runs.isEmpty then "''"
  else .ofList <| runs.flatMap fun run =>
    let mark := if run.head? = some '\'' then '"' else '\''
    mark :: run ++ [mark]

end CrossCheck.Host.Shell
