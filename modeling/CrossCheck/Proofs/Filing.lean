import CrossCheck.Proofs.FirstLine

/-! # Lines that are filed under another kind

A label line is recognised by case folding and filed by the letters of ASCII. The two differ on one
letter only, the long s, which case folding takes for an s: a line whose label words are recognised
as `stored in file` is filed as one about the computed hash if and only if it spells them with a
long s (`LabelLine.kind_eq_iff`). So every value comes from a line about its algorithm, and from one
of its kind but for this letter (`value_filed`); with it a report without any line about computed
hashes gives one (`not_filed_of_long_s`). -/

namespace CrossCheck.Extract

open Text

/-- A recognised label word is the word itself in the letters of ASCII exactly if no long s is in
it. -/
theorem lower_eq_iff {w word : List Char} (hword : word ∈ labelWords) (h : w.map fold = word) :
    lower w = word ↔ '\u017f' ∉ w := by
  have hletters : ∀ word ∈ labelWords, '\u017f' ∉ word ∧ 'k' ∉ word := by decide +kernel
  obtain ⟨hs, hk⟩ := hletters word hword
  constructor
  · rintro rfl hmem
    exact hs (List.mem_map.mpr ⟨_, hmem, by decide⟩)
  · intro hmem
    rw [← h]
    refine List.map_congr_left fun c hc => ?_
    have hcs : c ≠ '\u017f' := fun heq => hmem (heq ▸ hc)
    have hck : c ≠ '\u212a' := by
      rintro rfl
      exact hk (h ▸ List.mem_map.mpr ⟨_, hc, by decide⟩)
    rw [fold, if_neg hcs, if_neg hck]

namespace LabelLine

variable {d : LabelLine} {a : Algorithm} {k : HashKind}

theorem lower_kindWords_iff : lower d.kindWords = d.kind.labelWords ↔ '\u017f' ∉ d.kindWords :=
  lower_eq_iff (by cases d.kind <;> simp [labelWords]) d.kindWords_spells

/-- Of the two kinds, only the words of the stored hash have an s. -/
theorem kind_of_long_s (h : '\u017f' ∈ d.kindWords) : d.kind = .stored := by
  have hs : 's' ∈ d.kind.labelWords := by
    rw [← d.kindWords_spells]
    exact List.mem_map.mpr ⟨_, h, by decide⟩
  revert hs
  cases d.kind <;> decide

/-- **A line is filed under its kind** unless it is filed as one about the computed hash and has a
long s in its label words. -/
theorem kind_eq_iff (h : d.IsFiled a k) :
    d.kind = k ↔ ¬ (k = .computed ∧ '\u017f' ∈ d.kindWords) := by
  have hwords : HashKind.stored.labelWords = "stored in file".toList := rfl
  have hfiled := h.2
  rw [← hwords] at hfiled
  have hlower := d.lower_kindWords_iff
  cases hkind : d.kind with
  | stored =>
    rw [hkind] at hlower
    rw [hlower] at hfiled
    constructor
    · rintro rfl ⟨hk, -⟩
      cases hk
    · intro hlong
      cases k with
      | stored => rfl
      | computed =>
        have hs : '\u017f' ∉ d.kindWords := fun hs => hlong ⟨rfl, hs⟩
        exact (hfiled.mpr hs).symm
  | computed =>
    have hs : '\u017f' ∉ d.kindWords := fun hs => by
      rw [kind_of_long_s hs] at hkind
      cases hkind
    rw [hkind] at hlower
    rw [hlower.mpr hs] at hfiled
    have hne : HashKind.computed.labelWords ≠ HashKind.stored.labelWords := by decide
    cases k with
    | stored => exact absurd (hfiled.mp rfl) hne
    | computed => exact ⟨fun _ hlong => hs hlong.2, fun _ => rfl⟩

end LabelLine

theorem FirstLine.label_eq {report : String} {a : Algorithm} {k : HashKind} {d e : LabelLine}
    (hd : FirstLine (lines report) a k d) (he : FirstLine (lines report) a k e) :
    d.label = e.label :=
  Option.some.inj <| (labelFor?_eq_some_iff.mpr ⟨d, hd, rfl⟩).symm.trans
    (labelFor?_eq_some_iff.mpr ⟨e, he, rfl⟩)

/-- **Where values come from.** A value comes from the first line that is filed in its slot. That
line is about its algorithm, and it is of its kind unless the slot is one of a computed hash and the
line was recognised as one about the stored hash by a long s. So all values of a report come from
lines of their kinds if and only if none of these lines has a long s. -/
theorem value_filed (report : String) :
    (∀ a k v, (ExtractMode.labelled.extract report).value a k = some v →
      ∃ d, FirstLine (lines report) a k d ∧ NormalForm d.value v ∧ d.algorithm = a ∧
        (d.kind = k ∨ k = .computed ∧ d.kind = .stored ∧ '\u017f' ∈ d.kindWords)) ∧
    ((∀ a k v, (ExtractMode.labelled.extract report).value a k = some v →
        ∃ d, FirstLine (lines report) a k d ∧ NormalForm d.value v ∧ d.kind = k) ↔
      ∀ a d, FirstLine (lines report) a .computed d → '\u017f' ∉ d.kindWords) := by
  refine ⟨fun a k v hv => ?_, fun hkind a d hd hs => ?_, fun hs a k v hv => ?_⟩
  · obtain ⟨d, hd, hvalue⟩ := value_labelled_eq_some_iff.mp hv
    refine ⟨d, hd, hvalue, hd.isFiled.1, ?_⟩
    by_cases hlong : k = .computed ∧ '\u017f' ∈ d.kindWords
    · exact Or.inr ⟨hlong.1, LabelLine.kind_of_long_s hlong.2, hlong.2⟩
    · exact Or.inl ((LabelLine.kind_eq_iff hd.isFiled).mpr hlong)
  · obtain ⟨e, he, -, hke⟩ := hkind a .computed _
      (value_labelled_eq_some_iff.mpr ⟨d, hd, d.normalForm_iff.mpr rfl⟩)
    have hkd : d.kind = .computed := (congrArg Label.kind (hd.label_eq he)).trans hke
    exact (LabelLine.kind_eq_iff hd.isFiled).mp hkd ⟨rfl, hs⟩
  · obtain ⟨d, hd, hvalue⟩ := value_labelled_eq_some_iff.mp hv
    refine ⟨d, hd, hvalue, (LabelLine.kind_eq_iff hd.isFiled).mpr ?_⟩
    rintro ⟨rfl, hlong⟩
    exact hs a d hd hlong

/-- A report whose first line about the stored hash has a long s and whose second has none. -/
theorem value_filed_of_long_s :
    let report := "MD5 hash \u017ftored in file: aa\nmd5 Hash Stored In File: BB\n"
    (ExtractMode.labelled.extract report).value .md5 .computed = some "aa" ∧
    (∃ d, FirstLine (lines report) .md5 .computed d ∧ d.kind = .stored) ∧
    ∃ d, FirstLine (lines report) .md5 .stored d ∧ NormalForm d.value "bb" ∧ d.kind = .stored := by
  intro report
  have hc : (ExtractMode.labelled.extract report).value .md5 .computed = some "aa" := by
    decide +kernel
  have hs : (ExtractMode.labelled.extract report).value .md5 .stored = some "bb" := by
    decide +kernel
  have hstored : ∀ l ∈ labels report.toList, l.kind = .stored := by decide +kernel
  refine ⟨hc, ?_, ?_⟩
  · obtain ⟨d, hd, -, -, -⟩ := (value_filed report).1 .md5 .computed "aa" hc
    obtain ⟨before, after, hlines, -⟩ := hd.first
    exact ⟨d, hd, hstored d.label (mem_labels_iff.mpr ⟨d, by simp [hlines], rfl⟩)⟩
  · obtain ⟨d, hd, hvalue, -, hkind⟩ := (value_filed report).1 .md5 .stored "bb" hs
    exact ⟨d, hd, hvalue, hkind.resolve_right fun h => by cases h.1⟩

/-- With a long s a value is in the slot of the computed hash although no line was recognised as one
about it. -/
theorem not_filed_of_long_s :
    ¬ ∀ (report : String) (a : Algorithm) (k : HashKind) (v : String),
      (ExtractMode.labelled.extract report).value a k = some v →
      ∃ d : LabelLine, d.text ∈ lines report ∧ d.algorithm = a ∧ d.kind = k := by
  intro h
  let report := "MD5 hash \u017ftored in file: aa\n"
  have hvalue : (ExtractMode.labelled.extract report).value .md5 .computed = some "aa" := by
    decide +kernel
  have hstored : ∀ l ∈ labels report.toList, l.kind = .stored := by decide +kernel
  obtain ⟨d, hd, -, hkind⟩ := h report .md5 .computed "aa" hvalue
  have hd : d.kind = .stored := hstored d.label (mem_labels_iff.mpr ⟨d, hd, rfl⟩)
  rw [hkind] at hd
  cases hd

end CrossCheck.Extract
