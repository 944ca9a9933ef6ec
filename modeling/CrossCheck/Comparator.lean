import CrossCheck.Action
import CrossCheck.Report
import CrossCheck.Trace

/-!
# Comparing images

The reference is run on an image and then the candidate, and what they found is compared. A verifier
that cannot be run ends the comparison; a discrepancy does not. The verifiers act in any monad and
fail with any kind of error.
-/

namespace CrossCheck

/-- The two verifiers of a run. -/
structure Comparator (ε : Type) (m : Type → Type) where
  settings : Settings
  verify : Role → OsString → m (Except ε Finding)
  /-- Each verifier that runs is told about. -/
  traced : Bool

namespace Comparator

variable {ε : Type} {m : Type → Type} [Monad m] (c : Comparator ε m)

/-- Writes a line of the trace. -/
def tell (line : String) : Action ε m Unit :=
  if c.traced then Action.warn line else return

/-- Runs a verifier on the image at a path. -/
def find (role : Role) (path : OsString) : Action ε m Finding := do
  c.tell (Trace.before (c.settings.verifier role) path)
  let f ← Action.ask (c.verify role path)
  c.tell (Trace.after (c.settings.verifier role) f)
  return f

/-- Compares what the verifiers find out about the image at a path. -/
def compare (path : OsString) : Action ε m Outcome := do
  let r ← c.find .reference path
  let f ← c.find .candidate path
  return .ofFindings c.settings.reference.name r c.settings.candidate.name f

/-- Compares and prints the text report. The result tells whether the check failed. -/
def check (path : OsString) (verbose : Bool) : Action ε m Bool := do
  let o ← c.compare path
  Action.print (o.report path verbose)
  return o.failed

end Comparator

end CrossCheck
