import CrossCheck.Comparison
import CrossCheck.OsString

/-!
# The text report

Each discrepancy is one line of text, which names each verifier after its value. The report on an
image is its path, if the check failed or everything is to be shown, and then the lines of its
discrepancies.
-/

namespace CrossCheck

/-- The name of an algorithm in reports. -/
def Algorithm.name : Algorithm → String
  | .md5 => "MD5"
  | .sha1 => "SHA1"

/-- The name of a kind of hash in reports. -/
def HashKind.name : HashKind → String
  | .stored => "stored in file"
  | .computed => "calculated over data"

/-- The noun for a kind of hash in reports. The wording is fixed, odd plural included. -/
def HashKind.noun : HashKind → String
  | .stored => "hashes"
  | .computed => "hash"

/-- A hash value as it is shown: a value that was not reported is `missing`. -/
def shownValue (value : Option String) : String :=
  value.getD "missing"

/-- Two values side by side, each with the name of the verifier it comes from. -/
def sideBySide (reference referenceName candidate candidateName : String) : String :=
  reference ++ " (" ++ referenceName ++ "), " ++ candidate ++ " (" ++ candidateName ++ ")"

/-- The report line of a discrepancy, without a newline. -/
def Discrepancy.describe (referenceName candidateName : String) : Discrepancy → String
  | .exitCode r c =>
    "Return code doesn't equal: " ++ sideBySide r.repr referenceName c.repr candidateName
  | .hash a k r c =>
    a.name ++ " " ++ k.noun ++ " " ++ k.name ++ " doesn't equal: " ++
      sideBySide (shownValue r) referenceName (shownValue c) candidateName
  | .missing a k => a.name ++ " hash " ++ k.name ++ " not reported by either tool"

namespace Outcome

/-- The report lines of an outcome, one for each discrepancy. -/
def lines (o : Outcome) : List String :=
  o.discrepancies.map (Discrepancy.describe o.reference o.candidate)

/-- The report lines of an outcome, each ended by a newline. -/
def message (o : Outcome) : String :=
  String.join (o.lines.map (· ++ "\n"))

/-- The report on the image at `path`. An image on which the verifiers agree is shown only if
`verbose` asks for it. -/
def report (o : Outcome) (path : OsString) (verbose : Bool) : String :=
  (if o.failed || verbose then path.display ++ "\n" else "") ++ if o.failed then o.message else ""

end Outcome

end CrossCheck
