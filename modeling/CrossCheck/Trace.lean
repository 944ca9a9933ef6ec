import CrossCheck.Comparison
import CrossCheck.Settings
import CrossCheck.Text.Quoted

/-!
# Traces

On request a run tells about every verifier that it runs: the command before, and what was found
after.
-/

namespace CrossCheck.Trace

/-- The tag before all messages on the error stream. -/
def tag : String := "[everify] "

/-- A hash value or its absence. -/
def value : Option String → String
  | none => "None"
  | some s => "Some(" ++ Text.quoted s ++ ")"

/-- The hashes of one algorithm. -/
def pair (p : HashPair) : String :=
  "HashPair \x7b stored: " ++ value p.stored ++ ", computed: " ++ value p.computed ++ " \x7d"

/-- The hashes of an algorithm that may be missing altogether. -/
def optionalPair : Option HashPair → String
  | none => "None"
  | some p => "Some(" ++ pair p ++ ")"

/-- The line before a verifier is run. -/
def before (v : VerifierSettings) (path : OsString) : String :=
  tag ++ "running: " ++ v.command ++ " " ++ path.display ++ "\n"

/-- The line after a verifier has run. -/
def after (v : VerifierSettings) (f : Finding) : String :=
  tag ++ v.name ++ ": exit code " ++ f.exitCode.repr ++ ", md5 " ++ pair f.hashes.md5 ++
    ", sha1 " ++ optionalPair f.hashes.sha1 ++ "\n"

end CrossCheck.Trace
