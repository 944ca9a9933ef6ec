import CrossCheck.Hash

/-!
# Comparing two findings

The candidate is measured against the reference. Every check runs, so that the outcome lists all
discrepancies at once, in a fixed order: exit code, MD5 stored, MD5 computed, SHA1 stored, SHA1
computed. SHA1 is compared only if the reference has it; a candidate without it then counts as one
with both values absent. A value that both sides lack is a discrepancy too.
-/

namespace CrossCheck

/-- One difference between the reference and the candidate. -/
inductive Discrepancy where
  | exitCode (reference candidate : Int)
  /-- The two values differ, or one side lacks it. -/
  | hash (algorithm : Algorithm) (kind : HashKind) (reference candidate : Option String)
  /-- Neither side has the value. -/
  | missing (algorithm : Algorithm) (kind : HashKind)
  deriving DecidableEq, Repr

namespace Discrepancy

/-- The check of the exit codes. -/
def ofExitCodes (reference candidate : Int) : List Discrepancy :=
  if reference = candidate then [] else [.exitCode reference candidate]

/-- The check of one hash value. -/
def ofValues (a : Algorithm) (k : HashKind) (reference candidate : Option String) :
    List Discrepancy :=
  if reference = none ∧ candidate = none then [.missing a k]
  else if reference = candidate then []
  else [.hash a k reference candidate]

/-- The checks of both values of an algorithm. -/
def ofPairs (a : Algorithm) (reference candidate : HashPair) : List Discrepancy :=
  ofValues a .stored reference.stored candidate.stored ++
    ofValues a .computed reference.computed candidate.computed

/-- All discrepancies between two findings. -/
def between (reference candidate : Finding) : List Discrepancy :=
  ofExitCodes reference.exitCode candidate.exitCode ++
    ofPairs .md5 reference.hashes.md5 candidate.hashes.md5 ++
    match reference.hashes.sha1 with
    | none => []
    | some p => ofPairs .sha1 p (candidate.hashes.sha1.getD {})

end Discrepancy

/-- What came out of the comparison of one image. -/
structure Outcome where
  /-- The reference's display name. -/
  reference : String
  /-- The candidate's display name. -/
  candidate : String
  referenceExitCode : Int
  candidateExitCode : Int
  discrepancies : List Discrepancy
  deriving DecidableEq, Repr

namespace Outcome

/-- The outcome for two findings of verifiers with the given names. -/
def ofFindings (referenceName : String) (reference : Finding) (candidateName : String)
    (candidate : Finding) : Outcome where
  reference := referenceName
  candidate := candidateName
  referenceExitCode := reference.exitCode
  candidateExitCode := candidate.exitCode
  discrepancies := Discrepancy.between reference candidate

/-- The check of an image failed if there is any discrepancy. -/
def failed (o : Outcome) : Bool :=
  !o.discrepancies.isEmpty

end Outcome

end CrossCheck
