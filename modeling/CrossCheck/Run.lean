import CrossCheck.Arguments
import CrossCheck.Comparator
import CrossCheck.FileReport
import CrossCheck.Images

/-!
# Runs

A run settles what to do, visits the images in order and reports on them, as text or as JSON. The
text is printed image by image, and the failures are counted on the way. The JSON report is
collected, printed at the end and counted then. What a run sees of the machine and the two verifiers
are parameters.

The exit status is 0 if the verifiers agree, 1 if they do not, and 2 if an error ended the run.
-/

namespace CrossCheck

/-- What a run sees of the machine. -/
structure Site where
  env : Environment
  /-- The directory in which the run was started, unless the system does not tell it. -/
  directory : Except String OsString
  /-- The user's directory of all configuration. -/
  configDirectory : Option OsString
  read : OsString → FileText
  look : OsString → Place

/-- What a run leaves: the text on its two streams, and the exit status or the error that ended it.
-/
structure Transcript (ε : Type) extends Printed where
  ending : Except (RunError ε) Nat

/-- The exit status of the program. -/
def Transcript.exitStatus {ε : Type} (t : Transcript ε) : Nat :=
  match t.ending with
  | .error _ => 2
  | .ok status => status

namespace Run

variable {ε : Type}

/-- Traces are asked for by a variable, whatever its value. -/
def traces (env : Environment) : Bool :=
  (env "EVERIFY_DEBUG").isSome

/-- The settings of a run in a directory as its layers make them, without looking for faults. -/
def resolve (site : Site) (directory : OsString) (a : Arguments) : Except LoadError Settings := do
  let s ← Settings.load site.read site.env site.configDirectory directory
  return s.apply (a.layer site.env)

/-- The settings of a run, if they are without fault. -/
def settings (site : Site) (a : Arguments) : Except (RunError ε) Settings := do
  let directory ← site.directory.mapError .directory
  let s ← (resolve site directory a).mapError .load
  match s.fault? with
  | some e => .error (.settings e)
  | none => return s

/-- The two numbers at the end of a verbose report. -/
def summary (checked failures : Nat) : String :=
  "\n" ++ checked.repr ++ " checked, " ++ failures.repr ++ " failed\n"

/-- The warning that a path stands for no image at all. -/
def warning (path : OsString) : String :=
  Trace.tag ++ "no image files found in " ++ path.display ++ "\n"

variable {m : Type → Type} [Monad m]

/-- Visits the images that a path stands for, up to the first error, and tells how many there are.
Each visit takes what the one before it leaves. -/
def walk {σ : Type} (look : OsString → Place) (path : OsString) (extensions : List String)
    (visit : σ → OsString → Action ε m σ) (start : σ) : Action ε m (Nat × σ) :=
  match Images.find look path extensions with
  | .error e => throw (.images e)
  | .ok images => do
    let left ← images.foldlM visit start
    return (images.length, left)

/-- Warns if no image was checked. -/
def warnIfEmpty (path : OsString) (checked : Nat) : Action ε m Unit :=
  if checked = 0 then Action.warn (warning path) else return

/-- Checks the images and reports on each of them as text. The result is the number of failures. -/
def checkText (site : Site) (a : Arguments) (c : Comparator ε m) : Action ε m Nat := do
  let (checked, failures) ← walk site.look a.path c.settings.extensions
    (fun failures image => do
      let failed ← c.check image a.verbose
      return if failed then failures + 1 else failures) 0
  warnIfEmpty a.path checked
  if a.verbose then Action.print (summary checked failures)
  return failures

/-- Checks the images and reports on all of them as JSON. The result is the number of failures. -/
def checkJson (site : Site) (a : Arguments) (c : Comparator ε m) : Action ε m Nat := do
  let (checked, reports) ← walk site.look a.path c.settings.extensions
    (fun reports image => do
      let o ← c.compare image
      if a.verbose then Action.warn (o.report image true)
      return reports ++ [FileReport.ofOutcome image o]) []
  warnIfEmpty a.path checked
  Action.print (FileReport.print reports)
  return reports.countP (·.failed)

/-- Checks the images and reports as the arguments say. The result is the number of failures. -/
def check (site : Site) (a : Arguments) (c : Comparator ε m) : Action ε m Nat :=
  if a.json then checkJson site a c else checkText site a c

/-- The exit status of a run with that many failures. -/
def status (exitZero : Bool) (failures : Nat) : Nat :=
  if failures > 0 && !exitZero then 1 else 0

/-- A run as an action, with the exit status as its result. -/
def action (site : Site) (verify : Settings → Role → OsString → m (Except ε Finding))
    (a : Arguments) : Action ε m Nat := do
  let s ← MonadExcept.ofExcept (settings site a)
  let failures ← check site a
    { settings := s, verify := verify s, traced := traces site.env }
  return status a.exitZero failures

end Run

/-- A run with accepted arguments. -/
def run {ε : Type} {m : Type → Type} [Monad m] (site : Site)
    (verify : Settings → Role → OsString → m (Except ε Finding)) (a : Arguments) :
    m (Transcript ε) := do
  let (ending, printed) ← (Run.action site verify a).exec {}
  return { toPrinted := printed, ending }

end CrossCheck
