import CrossCheck.Images
import CrossCheck.Settings.Load

/-!
# Actions

What a run does is an action. It writes to the two streams of the program, and an error may end it;
what it has written by then stays written. All that it does besides, it does in the monad of the
verifiers.
-/

namespace CrossCheck

/-- What can end a run; `ε` is the kind of error of the verifiers. -/
inductive RunError (ε : Type) where
  /-- The current directory is not known. -/
  | directory (cause : String)
  | load (e : LoadError)
  | settings (e : SettingsError)
  | images (e : ImageError)
  | verifier (e : ε)
  deriving DecidableEq, Repr

/-- The wordings of an error and of its causes, given those of the errors of verifiers; `fault` says
what is wrong with the text of a configuration file. -/
def RunError.messages {ε : Type} (fault : String → String) (verifierMessages : ε → List String) :
    RunError ε → List String
  | directory cause => [cause]
  | load e => e.messages fault
  | settings e => [e.message]
  | images e => e.messages
  | verifier e => verifierMessages e

/-- The text on the two streams. -/
structure Printed where
  stdout : String := ""
  stderr : String := ""
  deriving DecidableEq, Repr

/-- An action with a result of type `α`. -/
abbrev Action (ε : Type) (m : Type → Type) (α : Type) : Type :=
  ExceptT (RunError ε) (StateT Printed m) α

namespace Action

variable {ε α : Type} {m : Type → Type} [Monad m]

/-- Writes to the standard output. -/
def print (text : String) : Action ε m Unit :=
  modify fun p => { p with stdout := p.stdout ++ text }

/-- Writes to the error stream. -/
def warn (text : String) : Action ε m Unit :=
  modify fun p => { p with stderr := p.stderr ++ text }

/-- Lets a verifier act. Its error ends the run. -/
def ask (x : m (Except ε α)) : Action ε m α := do
  match ← x with
  | .error e => throw (.verifier e)
  | .ok a => return a

/-- Takes an action, with the text that is on the streams already. -/
def exec (x : Action ε m α) (p : Printed) : m (Except (RunError ε) α × Printed) :=
  (ExceptT.run x).run p

end Action

end CrossCheck
