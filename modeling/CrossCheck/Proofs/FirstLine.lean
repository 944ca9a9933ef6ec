import CrossCheck.Proofs.LabelledPass

/-! # The first line about a hash

Reading the label lines of a report is reading it line by line by the grammar of `LabelLine`: in
each slot is the value of the first label line that is filed there, in its normal form, and nothing
if there is no such line (`extract_labelled_iff`). A line is filed by its algorithm and by its kind,
as the letters of ASCII tell them (`LabelLine.IsFiled`), while it is recognised by case folding,
which knows one more letter (`map_fold_eq_iff`). -/

namespace CrossCheck.Extract

open Text

/-! ### Letters of the label words -/

/-- A letter in either case, or the long s for an s. -/
def SameLetter (c x : Char) : Prop :=
  c.toLower = x ∨ c = '\u017f' ∧ x = 's'

theorem fold_eq_iff {c x : Char} (hx : x.toNat < 128) (hk : x ≠ 'k') :
    fold c = x ↔ SameLetter c x := by
  unfold fold SameLetter
  split_ifs with hs hK
  · subst hs
    have hne : ('\u017f').toLower ≠ x := by
      rintro rfl
      exact absurd hx (by decide)
    rw [or_iff_right hne, eq_comm, and_iff_right rfl]
  · subst hK
    have hne : ('\u212a').toLower ≠ x := by
      rintro rfl
      exact absurd hx (by decide)
    exact iff_of_false hk.symm (not_or.mpr ⟨hne, fun h => absurd h.1 (by decide)⟩)
  · rw [or_iff_left fun h => hs h.1]

/-- The words on a label line other than its value, in small letters. -/
def labelWords : List (List Char) :=
  [Algorithm.md5.labelWord, Algorithm.sha1.labelWord, "hash".toList, HashKind.stored.labelWords,
    HashKind.computed.labelWords]

/-- **Recognising a label word** is comparing it letter by letter. -/
theorem map_fold_eq_iff {w word : List Char} (hword : word ∈ labelWords) :
    w.map fold = word ↔ List.Forall₂ SameLetter w word := by
  have hletters : ∀ word ∈ labelWords,
      (word.all fun x => decide (x.toNat < 128 ∧ x ≠ 'k')) = true := by decide +kernel
  have hx : ∀ x ∈ word, x.toNat < 128 ∧ x ≠ 'k' := fun x hmem =>
    of_decide_eq_true (List.all_eq_true.mp (hletters word hword) x hmem)
  clear hletters hword
  induction w generalizing word with
  | nil => cases word <;> simp
  | cons c w ih =>
    rcases word with _ | ⟨x, word⟩
    · simp
    · obtain ⟨⟨hascii, hk⟩, htail⟩ := List.forall_mem_cons.mp hx
      have hrest : w.map fold = word ↔ List.Forall₂ SameLetter w word := ih htail
      rw [List.map_cons, List.cons.injEq, fold_eq_iff hascii hk, hrest, List.forall₂_cons]

/-! ### Where a line is filed -/

/-- The line is filed as one about the algorithm and kind: as one about the stored hash exactly if
its label words are `stored in file` but for the case of ASCII letters. -/
def LabelLine.IsFiled (d : LabelLine) (a : Algorithm) (k : HashKind) : Prop :=
  d.algorithm = a ∧ (k = .stored ↔ lower d.kindWords = "stored in file".toList)

theorem LabelLine.isFiled_iff {d : LabelLine} {a : Algorithm} {k : HashKind} :
    d.IsFiled a k ↔ d.label.algorithm = a ∧ d.label.slot = k := by
  have hwords : lower HashKind.stored.labelWords = "stored in file".toList := by decide
  have hslot : d.label.slot = .stored ↔ lower d.kindWords = "stored in file".toList := by
    unfold Label.slot sameLetters
    rw [hwords, show d.label.spelling = d.kindWords from rfl]
    simp only [decide_eq_true_eq, ite_eq_left_iff, reduceCtorEq, imp_false, not_not]
  unfold IsFiled
  rw [← hslot]
  refine and_congr_right fun _ => ?_
  cases d.label.slot <;> cases k <;> decide

/-- **The normal form of a value:** `N/A` in capitals and all else in small letters. -/
inductive NormalForm (v : List Char) : String → Prop
  | notAvailable : lower v = "n/a".toList → NormalForm v "N/A"
  | other : lower v ≠ "n/a".toList → NormalForm v (.ofList (lower v))

theorem LabelLine.normalForm_iff {d : LabelLine} {s : String} :
    NormalForm d.value s ↔ s = .ofList d.label.normalValue := by
  have hna : lower "n/a".toList = "n/a".toList := by decide
  have hnormal : d.label.normalValue =
      if lower d.value = "n/a".toList then "N/A".toList else lower d.value := by
    unfold Label.normalValue sameLetters
    rw [hna, show d.label.value = d.value from rfl]
    simp only [decide_eq_true_eq]
  rw [hnormal]
  constructor
  · rintro (h | h)
    · rw [if_pos h]
      rfl
    · rw [if_neg h]
  · rintro rfl
    split_ifs with h
    · exact .notAvailable h
    · exact .other h

/-! ### The first line -/

/-- The lines of a report, cut at newlines only. -/
def lines (report : String) : List (List Char) :=
  report.toList.splitOn '\n'

/-- **The first label line** that is filed under the algorithm and kind. -/
structure FirstLine (ls : List (List Char)) (a : Algorithm) (k : HashKind) (d : LabelLine) : Prop
    where
  isFiled : d.IsFiled a k
  first : ∃ before after, ls = before ++ d.text :: after ∧
    ∀ e : LabelLine, e.text ∈ before → ¬ e.IsFiled a k

/-- **What lines say about a hash:** the normal form of the value on the first line about it, or
nothing if there is none. -/
inductive FirstReading (ls : List (List Char)) (a : Algorithm) (k : HashKind) :
    Option String → Prop
  | value (d : LabelLine) (v : String) : FirstLine ls a k d → NormalForm d.value v →
      FirstReading ls a k (some v)
  | nothing : (∀ d : LabelLine, d.text ∈ ls → ¬ d.IsFiled a k) → FirstReading ls a k none

theorem mem_labels_iff {report : String} {l : Label} :
    l ∈ labels report.toList ↔ ∃ d : LabelLine, d.text ∈ lines report ∧ d.label = l := by
  simp only [labels, List.mem_filterMap, ofLine?_eq_some_iff]
  constructor
  · rintro ⟨_, hline, d, rfl, hd⟩
    exact ⟨d, hline, hd⟩
  · rintro ⟨d, hline, hd⟩
    exact ⟨d.text, hline, d, rfl, hd⟩

variable {report : String} {a : Algorithm} {k : HashKind}

theorem any_ofLine?_iff {line : List Char} :
    ((Label.ofLine? line).any fun l => l.algorithm = a && l.slot = k) = true ↔
      ∃ d : LabelLine, d.text = line ∧ d.IsFiled a k := by
  simp only [Option.any_eq_true, ofLine?_eq_some_iff, Bool.and_eq_true, decide_eq_true_eq,
    LabelLine.isFiled_iff]
  constructor
  · rintro ⟨_, ⟨d, hd, rfl⟩, h⟩
    exact ⟨d, hd, h⟩
  · rintro ⟨d, hd, h⟩
    exact ⟨d.label, ⟨d, hd, rfl⟩, h⟩

theorem labelFor?_eq_some_iff {l : Label} :
    labelFor? report a k = some l ↔ ∃ d, FirstLine (lines report) a k d ∧ d.label = l := by
  unfold labelFor? labels
  simp only [List.find?_filterMap, Option.bind_eq_some_iff, List.find?_eq_some_iff_append,
    any_ofLine?_iff, ofLine?_eq_some_iff, Bool.not_eq_true', ← Bool.not_eq_true]
  constructor
  · rintro ⟨line, ⟨⟨d, rfl, hfiled⟩, before, after, hls, hbefore⟩, d', hd', rfl⟩
    -- the line says the same, however it is put together
    have hlabel : d'.label = d.label := Option.some.inj <| by
      rw [← d'.ofLine?_text, ← d.ofLine?_text, hd']
    refine ⟨d, ⟨hfiled, before, after, hls, fun e he hfiled => ?_⟩, hlabel.symm⟩
    exact hbefore e.text he ⟨e, rfl, hfiled⟩
  · rintro ⟨d, ⟨hfiled, before, after, hls, hbefore⟩, rfl⟩
    refine ⟨d.text, ⟨⟨d, rfl, hfiled⟩, before, after, hls, ?_⟩, d, rfl, rfl⟩
    rintro _ he ⟨e, rfl, hfiled⟩
    exact hbefore e he hfiled

theorem labelFor?_eq_none_iff :
    labelFor? report a k = none ↔ ∀ d : LabelLine, d.text ∈ lines report → ¬ d.IsFiled a k := by
  simp only [labelFor?, List.find?_eq_none, mem_labels_iff, Bool.and_eq_true, decide_eq_true_eq,
    LabelLine.isFiled_iff]
  constructor
  · exact fun h d hd => h _ ⟨d, hd, rfl⟩
  · rintro h _ ⟨d, hd, rfl⟩
    exact h d hd

theorem value_labelled_eq_some_iff {v : String} :
    (ExtractMode.labelled.extract report).value a k = some v ↔
      ∃ d, FirstLine (lines report) a k d ∧ NormalForm d.value v := by
  simp only [value_labelled, Option.map_eq_some_iff, labelFor?_eq_some_iff]
  constructor
  · rintro ⟨_, ⟨d, hd, rfl⟩, rfl⟩
    exact ⟨d, hd, d.normalForm_iff.mpr rfl⟩
  · rintro ⟨d, hd, hv⟩
    exact ⟨d.label, ⟨d, hd, rfl⟩, (d.normalForm_iff.mp hv).symm⟩

/-- **One slot** holds what the lines say about it. -/
theorem firstReading_iff {o : Option String} :
    FirstReading (lines report) a k o ↔ (ExtractMode.labelled.extract report).value a k = o := by
  constructor
  · rintro (⟨d, v, hd, hv⟩ | h)
    · exact value_labelled_eq_some_iff.mpr ⟨d, hd, hv⟩
    · rw [value_labelled, labelFor?_eq_none_iff.mpr h]
      rfl
  · intro h
    rcases o with _ | v
    · rw [value_labelled, Option.map_eq_none_iff] at h
      exact .nothing (labelFor?_eq_none_iff.mp h)
    · obtain ⟨d, hd, hv⟩ := value_labelled_eq_some_iff.mp h
      exact .value d v hd hv

theorem sha1_labelled_eq_none_iff :
    (ExtractMode.labelled.extract report).sha1 = none ↔
      ∀ d : LabelLine, d.text ∈ lines report → d.algorithm ≠ .sha1 := by
  have hany : (ExtractMode.labelled.extract report).sha1 = none ↔
      ∀ l ∈ labels report.toList, l.algorithm ≠ .sha1 := sha1_ofLabels_eq_none_iff
  rw [hany]
  simp only [mem_labels_iff]
  constructor
  · exact fun h d hd => h _ ⟨d, hd, rfl⟩
  · rintro h _ ⟨d, hd, rfl⟩
    exact h d hd

/-- **Reading label lines is reading the first line about each hash.** Hashes are those of a report
by its label lines if and only if each slot has the normal form of the value on the first label line
filed there, or nothing if there is no such line, and there is no SHA1 pair exactly if there is no
label line about SHA1. The label words of a line are recognised letter by letter. -/
theorem extract_labelled_iff (report : String) :
    (∀ h : Hashes, ExtractMode.labelled.extract report = h ↔
      (∀ a k, FirstReading (lines report) a k (h.value a k)) ∧
      (h.sha1 = none ↔ ∀ d : LabelLine, d.text ∈ lines report → d.algorithm ≠ .sha1)) ∧
    ∀ word ∈ labelWords, ∀ w : List Char,
      w.map fold = word ↔ List.Forall₂ SameLetter w word := by
  refine ⟨fun h => ?_, fun word hword w => map_fold_eq_iff hword⟩
  constructor
  · rintro rfl
    exact ⟨fun a k => firstReading_iff.mpr rfl, sha1_labelled_eq_none_iff⟩
  · rintro ⟨hvalue, hsha1⟩
    have hv : ∀ a k, (ExtractMode.labelled.extract report).value a k = h.value a k :=
      fun a k => firstReading_iff.mp (hvalue a k)
    have hnone : h.sha1 = none ↔ (ExtractMode.labelled.extract report).sha1 = none :=
      hsha1.trans sha1_labelled_eq_none_iff.symm
    refine Hashes.eq_of_value (isSome_sha1_extract_iff _ _) ?_ hv
    simp only [← hv]
    rw [← isSome_sha1_extract_iff, Option.isSome_iff_ne_none, Option.isSome_iff_ne_none, Ne, Ne,
      hnone]

end CrossCheck.Extract
