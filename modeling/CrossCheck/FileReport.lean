import CrossCheck.Json
import CrossCheck.Report

/-!
# The JSON report

A run can report on all its images as one JSON list with an object for each image.
-/

namespace CrossCheck

/-- What the JSON report says about one image. -/
structure FileReport where
  path : String
  failed : Bool
  reference : String
  candidate : String
  referenceExitCode : Int
  candidateExitCode : Int
  /-- The report lines of the discrepancies. -/
  discrepancies : List String
  deriving DecidableEq, Repr

namespace FileReport

/-- The report on the image at `path`. -/
def ofOutcome (path : OsString) (o : Outcome) : FileReport where
  path := path.display
  failed := o.failed
  reference := o.reference
  candidate := o.candidate
  referenceExitCode := o.referenceExitCode
  candidateExitCode := o.candidateExitCode
  discrepancies := o.lines

/-- The report as a JSON object. -/
def toJson (r : FileReport) : Json :=
  .object [
    ("path", .text r.path),
    ("failed", .bool r.failed),
    ("reference", .text r.reference),
    ("candidate", .text r.candidate),
    ("reference_exit_code", .number r.referenceExitCode),
    ("candidate_exit_code", .number r.candidateExitCode),
    ("discrepancies", .list (r.discrepancies.map .text))]

/-- The JSON report on several images, with a newline at its end. -/
def print (reports : List FileReport) : String :=
  (Json.list (reports.map toJson)).pretty ++ "\n"

end FileReport

end CrossCheck
