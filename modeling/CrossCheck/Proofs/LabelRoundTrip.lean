import CrossCheck.Proofs.ReportLines
import CrossCheck.Proofs.Slots

/-! # Hashes written on label lines are read back

Hashes are written by a label line for each value, in any layout and in any order, with any other
lines around them and either kind of line end (`written`). Reading the label lines gives the same
hashes back (`extract_written`): the label lines of the text are those that were put into it
(`labels_written`), and each value is in one slot only (`Hashes.mem_entries`). -/

namespace CrossCheck

open Extract

/-- The values that are there, each with its slot. -/
def Hashes.entries (h : Hashes) : List (Algorithm × HashKind × String) :=
  [Algorithm.md5, .sha1].flatMap fun a =>
    HashKind.order.filterMap fun k => (h.value a k).map fun v => (a, k, v)

theorem Hashes.mem_entries {h : Hashes} {a : Algorithm} {k : HashKind} {v : String} :
    (a, k, v) ∈ h.entries ↔ h.value a k = some v := by
  simp only [entries, List.mem_flatMap, List.mem_filterMap, HashKind.mem_order, true_and,
    Option.map_eq_some_iff, Prod.mk.injEq]
  constructor
  · rintro ⟨_, _, _, _, hv, rfl, rfl, rfl⟩
    exact hv
  · intro hv
    exact ⟨a, by cases a <;> simp, k, v, hv, rfl, rfl, rfl⟩

/-- The value on a label line with its slot. -/
def Extract.LabelLine.entry (l : LabelLine) : Algorithm × HashKind × String :=
  (l.algorithm, l.kind, .ofList l.value)

namespace Extract

/-- **What is written on label lines is read back,** whatever the layout and the order of the lines
and whatever other lines there are. A value must be in its normal form; that it is not empty and has
no white space in it is so of all that stands on a label line. -/
theorem extract_written (h : Hashes) (hsha1 : h.sha1 ≠ some {})
    (hnormal : ∀ a k v, h.value a k = some v → IsNormal v.toList)
    (rs : List (ReportLine × LineEnd)) (last : Option ReportLine)
    (hwords : ∀ l ∈ labelLines (writtenLines rs last), l.AsciiWords)
    (hentries : ((labelLines (writtenLines rs last)).map LabelLine.entry).Perm h.entries) :
    ExtractMode.labelled.extract (.ofList (written rs last)) = h := by
  have hmem : ∀ l ∈ labelLines (writtenLines rs last),
      h.value l.algorithm l.kind = some (.ofList l.value) := fun l hl =>
    Hashes.mem_entries.mp (hentries.mem_iff.mp (List.mem_map_of_mem hl))
  have hn : ∀ l ∈ labelLines (writtenLines rs last), IsNormal l.value := fun l hl => by
    have hl := hnormal _ _ _ (hmem l hl)
    rwa [String.toList_ofList] at hl
  simp only [ExtractMode.extract, String.toList_ofList]
  refine Hashes.eq_of_value (isSome_sha1_ofLabels_iff _) (Hashes.isSome_sha1_iff hsha1)
    fun a k => ?_
  rw [byLabels, value_ofLabels, labels_written, firstValue_map_label hwords hn]
  rcases hfind : List.find? _ (labelLines (writtenLines rs last)) with _ | l
  · -- No line is about the slot, so it has no value.
    rw [Option.map_none, eq_comm, Option.eq_none_iff_forall_ne_some]
    intro v hv
    obtain ⟨l, hl, he⟩ := List.mem_map.mp (hentries.mem_iff.mpr (Hashes.mem_entries.mpr hv))
    cases he
    exact absurd (List.find?_eq_none.mp hfind l hl) (by simp)
  · have hl := List.find?_some hfind
    simp only [decide_eq_true_eq] at hl
    obtain ⟨rfl, rfl⟩ := hl
    exact (hmem l (List.mem_of_find?_eq_some hfind)).symm

/-- Three values, of which one has a colon and a label word in it, on lines in no order, with a line
of another kind between them and no newline at the end. -/
theorem extract_written_of_shuffled_lines :
    let h : Hashes :=
      { md5 := { stored := some "N/A", computed := some "md5:0f/a" }
        sha1 := some { computed := some "e3" } }
    let rs : List (ReportLine × LineEnd) :=
      [(.label { algorithm := .sha1, algorithmWord := "Sha1".toList
                 kind := .computed, kindWords := "calculated over data".toList
                 afterColon := [], value := "e3".toList }, .crlf),
        (.other "MD5 hash stored in file:".toList (by decide)
          (ofLine?_eq_none_iff.mp (by decide +kernel)), .lf),
        (.label { algorithm := .md5, algorithmWord := "MD5".toList, indent := ['\t']
                  kind := .computed, kindWords := "Calculated Over Data".toList
                  beforeColon := [' '], value := "md5:0f/a".toList }, .lf)]
    let last : Option ReportLine :=
      some (.label { algorithm := .md5, algorithmWord := "MD5".toList
                     kind := .stored, kindWords := "stored in file".toList
                     value := "N/A".toList, trail := [' '] })
    h.sha1 ≠ some {} ∧ (∀ a k v, h.value a k = some v → IsNormal v.toList) ∧
      (∀ l ∈ labelLines (writtenLines rs last), l.AsciiWords) ∧
      ((labelLines (writtenLines rs last)).map LabelLine.entry).Perm h.entries ∧
      ExtractMode.labelled.extract (.ofList (written rs last)) = h := by
  intro h rs last
  have hsha1 : h.sha1 ≠ some {} := by decide
  have hnormal : ∀ a k v, h.value a k = some v → IsNormal v.toList := by
    intro a k v hv
    unfold IsNormal
    cases a <;> cases k <;> cases hv <;> decide
  have hwords : ∀ l ∈ labelLines (writtenLines rs last), l.AsciiWords := by decide
  have hentries : ((labelLines (writtenLines rs last)).map LabelLine.entry).Perm h.entries := by
    decide +kernel
  exact ⟨hsha1, hnormal, hwords, hentries, extract_written h hsha1 hnormal rs last hwords hentries⟩

end Extract

end CrossCheck
