import CrossCheck.FileReport
import CrossCheck.Proofs.JsonReading

/-! # The JSON report is read back

`FileReport.readAll?` takes a JSON report apart again, with the fields of each entry looked up by
their names. It undoes `FileReport.print`, whatever the paths, the names of the verifiers and the
lines of the discrepancies are made of (`readAll?_print`). -/

namespace CrossCheck

/-! ### Reading entries -/

namespace Json

/-- The truth value that a value is. -/
def bool? : Json → Option Bool
  | bool b => some b
  | _ => none

/-- The number that a value is. -/
def number? : Json → Option Int
  | number n => some n
  | _ => none

/-- The list that a value is, if `f` gives something for each of its items. -/
def list? {α : Type} (f : Json → Option α) : Json → Option (List α)
  | list js => js.mapM f
  | _ => none

theorem list?_map {α : Type} {f : Json → Option α} {g : α → Json}
    (h : ∀ x, f (g x) = some x) (xs : List α) : list? f (list (xs.map g)) = some xs := by
  rw [list?, List.mapM_map, show f ∘ g = pure from funext h, List.mapM_pure, List.map_id']
  rfl

end Json

namespace FileReport

/-- The entry that a JSON object is. -/
def ofJson? (j : Json) : Option FileReport := do
  let path ← (j.field? "path").bind Json.string?
  let failed ← (j.field? "failed").bind Json.bool?
  let reference ← (j.field? "reference").bind Json.string?
  let candidate ← (j.field? "candidate").bind Json.string?
  let referenceExitCode ← (j.field? "reference_exit_code").bind Json.number?
  let candidateExitCode ← (j.field? "candidate_exit_code").bind Json.number?
  let discrepancies ← (j.field? "discrepancies").bind (Json.list? Json.string?)
  return {
    path, failed, reference, candidate, referenceExitCode, candidateExitCode, discrepancies }

/-- The entries of a JSON report. -/
def readAll? (s : String) : Option (List FileReport) :=
  (Json.parse? s.toList).bind (Json.list? ofJson?)

theorem ofJson?_toJson (r : FileReport) : ofJson? r.toJson = some r := by
  have hpath : (r.toJson.field? "path").bind Json.string? = some r.path := rfl
  have hfailed : (r.toJson.field? "failed").bind Json.bool? = some r.failed := rfl
  have href : (r.toJson.field? "reference").bind Json.string? = some r.reference := rfl
  have hcand : (r.toJson.field? "candidate").bind Json.string? = some r.candidate := rfl
  have hrefCode : (r.toJson.field? "reference_exit_code").bind Json.number? =
      some r.referenceExitCode := rfl
  have hcandCode : (r.toJson.field? "candidate_exit_code").bind Json.number? =
      some r.candidateExitCode := rfl
  have hlines : (r.toJson.field? "discrepancies").bind (Json.list? Json.string?) =
      some r.discrepancies := Json.list?_map (g := .text) (fun _ => rfl) _
  rw [ofJson?, hpath, hfailed, href, hcand, hrefCode, hcandCode, hlines]
  rfl

/-! ### Reports -/

theorem print_eq (rs : List FileReport) :
    print rs = .ofList ((Json.list (rs.map toJson)).render 0) ++ "\n" := rfl

theorem readAll?_print (rs : List FileReport) : readAll? (print rs) = some rs := by
  have hline : Json.Spaces ['\n'] := by simp [Json.Spaces, Json.isSpace]
  have hparse := Json.parse?_of_written Json.spaces_nil
    (Json.written_render 0 (.list (rs.map toJson))) hline
  have htext : (print rs).toList = [] ++ ((Json.list (rs.map toJson)).render 0 ++ ['\n']) := by
    rw [print_eq, String.toList_append, String.toList_ofList]
    rfl
  rw [readAll?, htext, hparse, Option.bind_some, Json.list?_map ofJson?_toJson]

theorem print_injective : Function.Injective print := fun rs ts h => by
  have hread := readAll?_print ts
  rw [← h, readAll?_print] at hread
  exact Option.some.inj hread

/-- **The JSON report loses nothing.** What is printed is one JSON text and a newline. By the
grammar of JSON it is written for one value, which is the list of the reports in order, each an
object with the seven fields of the report; these are read back from it by name. So different
reports are printed differently. -/
theorem print_lossless (rs ts : List FileReport) :
    (∃ s, print rs = .ofList s ++ "\n" ∧ ∀ j, Json.Written j s ↔
      j = .list (rs.map fun r => .object [
        ("path", .text r.path),
        ("failed", .bool r.failed),
        ("reference", .text r.reference),
        ("candidate", .text r.candidate),
        ("reference_exit_code", .number r.referenceExitCode),
        ("candidate_exit_code", .number r.candidateExitCode),
        ("discrepancies", .list (r.discrepancies.map .text))])) ∧
    readAll? (print rs) = some rs ∧
    (print rs = print ts ↔ rs = ts) :=
  ⟨⟨_, print_eq rs, fun j => Json.written_render_iff 0 (.list (rs.map toJson)) j⟩,
    readAll?_print rs, print_injective.eq_iff⟩

/-- A path that looks like an escape, a NUL and a quote. -/
example :
    print [⟨"\\n", true, "\x00", "é", -1, 0, ["\"", ""]⟩] = "\n".intercalate ["[", "  \x7b",
      "    \"path\": \"\\\\n\",",
      "    \"failed\": true,",
      "    \"reference\": \"\\u0000\",",
      "    \"candidate\": \"é\",",
      "    \"reference_exit_code\": -1,",
      "    \"candidate_exit_code\": 0,",
      "    \"discrepancies\": [",
      "      \"\\\"\",",
      "      \"\"",
      "    ]", "  \x7d", "]", ""] := by
  decide +kernel

end FileReport

end CrossCheck
