import CrossCheck.Command
import CrossCheck.Execution
import CrossCheck.Run

/-!
# Verifiers that are programs

A verifier is started as its command line says, with the path of the image as one more argument. It
fails if its program cannot be started, waited for or read to its end; a program that runs and exits
with any code at all has something to report.
-/

namespace CrossCheck

/-- Why a command line leaves nothing. Where there is a cause, it is what the system says. -/
inductive LaunchError where
  /-- The command line has no word. -/
  | emptyCommand
  | notStarted (program : String) (cause : String)
  /-- The end of the program could not be waited for. -/
  | lost (cause : String)
  | unread (pipe : Pipe) (cause : String)
  deriving DecidableEq, Repr

/-- The wordings of an error and of its cause. -/
def LaunchError.messages : LaunchError → List String
  | .emptyCommand => ["empty command"]
  | .notStarted program cause => ["failed to start " ++ program, cause]
  | .lost cause => [cause]
  | .unread pipe cause => ["failed to read command " ++ pipe.name, cause]

/-- A verifier that could not be run on an image. -/
structure VerifierError where
  name : String
  path : OsString
  cause : LaunchError
  deriving DecidableEq, Repr

/-- The wordings of an error and of its causes. -/
def VerifierError.messages (e : VerifierError) : List String :=
  ("failed to run " ++ e.name ++ " on " ++ e.path.display) :: e.cause.messages

/-- What a program leaves. It is waited for before anything that was wrong with its streams counts.
-/
def Child.collect (c : Child) : Except LaunchError Execution :=
  match c.status, c.fault .stdout, c.fault .stderr with
  | .error cause, _, _ => .error (.lost cause)
  | .ok _, some cause, _ => .error (.unread .stdout cause)
  | .ok _, none, some cause => .error (.unread .stderr cause)
  | .ok status, none, none => .ok { exitCode := status.code, output := c.arrivals.output }

variable {m : Type → Type} [Monad m]

/-- Runs a command line with further arguments; `start` starts a program, or says why it cannot. -/
def execute (start : Command → m (Except String Child)) (line : String) (more : List OsString) :
    m (Except LaunchError Execution) :=
  match Command.ofLine? line more with
  | none => return .error .emptyCommand
  | some c => do
    match ← start c with
    | .error cause => return .error (.notStarted c.program cause)
    | .ok child => return child.collect

/-- Runs a verifier of the settings on the image at a path. -/
def verify (start : Command → m (Except String Child)) (s : Settings) (role : Role)
    (path : OsString) : m (Except VerifierError Finding) := do
  let v := s.verifier role
  match ← execute start v.command [path] with
  | .error cause => return .error { name := v.name, path, cause }
  | .ok x => return .ok (x.finding s.extract)

end CrossCheck
