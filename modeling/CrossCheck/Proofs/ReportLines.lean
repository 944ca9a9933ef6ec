import CrossCheck.Proofs.LabelLine

/-! # Lines of a report

A report is written line by line: some lines are label lines, the others are not (`ReportLine`).
Either kind of line end may follow a line, and the last line may go without (`written`). Its label
lines are those that were put into it (`labels_written`). -/

namespace CrossCheck.Extract

open Text

/-- A line of a report, without what ends it. -/
inductive ReportLine where
  | label (l : LabelLine)
  /-- A line that is no label line. -/
  | other (s : List Char) (newline_notMem : '\n' ∉ s) (no_label : ∀ l : LabelLine, l.text ≠ s)

namespace ReportLine

/-- The line as text. -/
def text : ReportLine → List Char
  | label l => l.text
  | other s _ _ => s

/-- The label line that the line is, if it is one. -/
def labelLine? : ReportLine → Option LabelLine
  | label l => some l
  | other _ _ _ => none

theorem newline_notMem_text (r : ReportLine) : '\n' ∉ r.text := by
  cases r with
  | label l => exact l.newline_notMem_text
  | other s hs _ => exact hs

theorem ofLine?_text (r : ReportLine) :
    Label.ofLine? r.text = r.labelLine?.map LabelLine.label := by
  cases r with
  | label l => exact l.ofLine?_text
  | other s _ hs => exact ofLine?_eq_none_iff.mpr hs

end ReportLine

/-- The label lines among the lines of a report. -/
def labelLines (rs : List ReportLine) : List LabelLine :=
  rs.filterMap ReportLine.labelLine?

theorem labelLines_cons (r : ReportLine) (rs : List ReportLine) :
    labelLines (r :: rs) = r.labelLine?.toList ++ labelLines rs := by
  unfold labelLines
  rcases h : r.labelLine? with _ | l <;> simp [h]

theorem labels_line_append (r : ReportLine) {t : List Char}
    (ht : ∀ c ∈ t, isBlank c = true ∨ c = '\r') (rest : List Char) :
    labels (r.text ++ t ++ '\n' :: rest) =
      (r.labelLine?.map LabelLine.label).toList ++ labels rest := by
  rw [labels_append_newline, labels_append_trail r.newline_notMem_text ht,
    labels_of_newline_notMem r.newline_notMem_text, r.ofLine?_text]

/-! ### Reports as text -/

/-- What may end a line. -/
inductive LineEnd where
  | lf
  | crlf
  deriving DecidableEq, Repr

namespace LineEnd

def chars : LineEnd → List Char
  | lf => ['\n']
  | crlf => ['\r', '\n']

theorem exists_chars_eq (e : LineEnd) :
    ∃ t, e.chars = t ++ ['\n'] ∧ ∀ c ∈ t, Text.isBlank c = true ∨ c = '\r' := by
  cases e with
  | lf => exact ⟨[], rfl, by simp⟩
  | crlf => exact ⟨['\r'], rfl, by simp⟩

end LineEnd

/-- The text of lines with their ends, and perhaps of a last line without one. -/
def written (rs : List (ReportLine × LineEnd)) (last : Option ReportLine) : List Char :=
  rs.flatMap (fun r => r.1.text ++ r.2.chars) ++ last.elim [] ReportLine.text

/-- All the lines. -/
def writtenLines (rs : List (ReportLine × LineEnd)) (last : Option ReportLine) :
    List ReportLine :=
  rs.map Prod.fst ++ last.toList

theorem labels_written (rs : List (ReportLine × LineEnd)) (last : Option ReportLine) :
    labels (written rs last) =
      (labelLines (writtenLines rs last)).map LabelLine.label := by
  induction rs with
  | nil =>
    rcases last with _ | r
    · exact labels_nil
    · show labels r.text = (labelLines [r]).map LabelLine.label
      rw [labels_of_newline_notMem r.newline_notMem_text, r.ofLine?_text, labelLines_cons]
      cases r <;> rfl
  | cons r rs ih =>
    obtain ⟨r, e⟩ := r
    obtain ⟨t, he, ht⟩ := e.exists_chars_eq
    have hcons : written ((r, e) :: rs) last = r.text ++ t ++ '\n' :: written rs last := by
      simp [written, he]
    have hlines : writtenLines ((r, e) :: rs) last = r :: writtenLines rs last := rfl
    rw [hcons, labels_line_append r ht, ih, hlines, labelLines_cons, List.map_append]
    cases r <;> rfl

end CrossCheck.Extract
