import CrossCheck.Execution
import CrossCheck.Proofs.LabelLine
import CrossCheck.Proofs.Slots
import CrossCheck.Text.Hex

/-! # What a pass rests on where label lines are read

Two executions whose hashes are found by label lines pass the comparison. Then each value that was
compared is what the first label line about it says, in either report, in its normal form. That the
value is a hash, which is `N/A` or hexadecimal digits, depends on the lines alone
(`isHash_normalValue_iff`): the reader asks of a value no more than that it is a word. So a pass
rests on hashes if and only if the reference's lines give hashes (`values_of_labelled_pass`), and
two reports that say `error` on these lines pass (`not_isHash_of_labelled_pass`). -/

namespace CrossCheck

namespace Extract

open Text

/-! ### Hexadecimal digits in either case -/

theorem toNat_toLower (c : Char) :
    c.toLower.toNat = if 65 ≤ c.toNat ∧ c.toNat ≤ 90 then c.toNat + 32 else c.toNat := by
  unfold Char.toLower
  split_ifs with h h' h'
  · show (c.val + ('a'.val - 'A'.val)).toNat = c.val.toNat + 32
    have hd : ('a'.val - 'A'.val).toNat = 32 := by decide
    have hc : c.val.toNat ≤ 90 := h'.2
    rw [UInt32.toNat_add, hd]
    omega
  · exact absurd h h'
  · exact absurd h' h
  · rfl

theorem isHexDigit_iff {c : Char} : isHexDigit c = true ↔
    48 ≤ c.toNat ∧ c.toNat ≤ 57 ∨ 97 ≤ c.toNat ∧ c.toNat ≤ 102 ∨ 65 ≤ c.toNat ∧ c.toNat ≤ 70 := by
  simp [isHexDigit, Char.isDigit, Char.le_def, UInt32.le_iff_toNat_le, or_assoc]

theorem isHexDigit_toLower (c : Char) : isHexDigit c.toLower = isHexDigit c := by
  rw [Bool.eq_iff_iff, isHexDigit_iff, isHexDigit_iff, toNat_toLower]
  split_ifs <;> omega

/-! ### Hashes -/

/-- A value that stands for a hash or for its absence from the image. -/
def IsHash (v : String) : Prop :=
  v = "N/A" ∨ ∀ c ∈ v.toList, isHexDigit c = true

/-- What a label line is meant to give: `N/A` in any letter case, or hexadecimal digits. -/
def GivesHash (l : Label) : Prop :=
  sameLetters l.value "n/a".toList = true ∨ ∀ c ∈ l.value, isHexDigit c = true

instance : DecidablePred GivesHash := fun l =>
  decidable_of_iff (sameLetters l.value "n/a".toList = true ∨ l.value.all isHexDigit = true)
    (or_congr_right List.all_eq_true)

theorem lower_ne_notAvailable (s : List Char) : lower s ≠ "N/A".toList := by
  intro h
  have hN : 'N' ∈ lower s := by
    rw [h]
    decide
  obtain ⟨c, -, hc⟩ := List.mem_map.mp hN
  have hn := congrArg Char.toNat hc
  rw [toNat_toLower, show 'N'.toNat = 78 from rfl] at hn
  split_ifs at hn <;> omega

theorem isHash_normalValue_iff (l : Label) :
    IsHash (.ofList l.normalValue) ↔ GivesHash l := by
  unfold IsHash GivesHash Label.normalValue
  by_cases hna : sameLetters l.value "n/a".toList = true
  · rw [if_pos hna]
    exact iff_of_true (Or.inl (by decide)) (Or.inl hna)
  · have hne : String.ofList (lower l.value) ≠ "N/A" := fun h =>
      lower_ne_notAvailable l.value (by rw [← h, String.toList_ofList])
    rw [if_neg hna, or_iff_right hne, or_iff_right hna, String.toList_ofList, lower,
      List.forall_mem_map]
    simp only [isHexDigit_toLower]

/-! ### Values and their lines -/

/-- The label line that gives a slot its value, the first one about it. -/
def labelFor? (report : String) (a : Algorithm) (k : HashKind) : Option Label :=
  (labels report.toList).find? fun l => l.algorithm = a && l.slot = k

theorem value_labelled (report : String) (a : Algorithm) (k : HashKind) :
    (ExtractMode.labelled.extract report).value a k =
      (labelFor? report a k).map fun l => .ofList l.normalValue :=
  value_ofLabels _ a k

theorem exists_labelFor?_of_value {report : String} {a : Algorithm} {k : HashKind} {v : String}
    (h : (ExtractMode.labelled.extract report).value a k = some v) :
    ∃ l, labelFor? report a k = some l ∧ v = .ofList l.normalValue := by
  rw [value_labelled, Option.map_eq_some_iff] at h
  obtain ⟨l, hl, rfl⟩ := h
  exact ⟨l, hl, rfl⟩

end Extract

open Extract

theorem Finding.Agrees.sameValue {r c : Finding} (h : r.Agrees c) {a : Algorithm}
    (ha : a ∈ r.algorithms) (k : HashKind) : r.SameValue c a k := by
  cases a with
  | md5 => exact h.md5 k
  | sha1 => exact h.sha1 ((Finding.mem_algorithms.mp ha).resolve_left (by decide)) k

/-- **A pass where label lines are read.** Each value that is compared is the normal form of what
the first line about it says, in both reports, and these are the same. All of them are hashes if and
only if the reference's lines give hashes. -/
theorem values_of_labelled_pass (x y : Execution) (m n : String)
    (h : (Outcome.ofFindings m (x.finding .labelled) n (y.finding .labelled)).failed = false) :
    let r := x.finding .labelled
    let c := y.finding .labelled
    (∀ a ∈ r.algorithms, ∀ k, ∃ l l',
      labelFor? x.output a k = some l ∧ labelFor? y.output a k = some l' ∧
      r.hashes.value a k = some (.ofList l.normalValue) ∧
      c.hashes.value a k = some (.ofList l'.normalValue) ∧ l.normalValue = l'.normalValue) ∧
    ((∀ a ∈ r.algorithms, ∀ k v, r.hashes.value a k = some v ∨ c.hashes.value a k = some v →
        IsHash v) ↔
      ∀ a ∈ r.algorithms, ∀ k l, labelFor? x.output a k = some l → GivesHash l) := by
  intro r c
  have hagree : r.Agrees c :=
    Discrepancy.between_eq_nil_iff.mp (Outcome.failed_eq_false_iff.mp h)
  -- One line in each report, and both say the same.
  have hlines : ∀ a ∈ r.algorithms, ∀ k, ∃ l l',
      labelFor? x.output a k = some l ∧ labelFor? y.output a k = some l' ∧
      r.hashes.value a k = some (.ofList l.normalValue) ∧
      c.hashes.value a k = some (.ofList l'.normalValue) ∧ l.normalValue = l'.normalValue := by
    intro a ha k
    obtain ⟨v, hr, hc⟩ := hagree.sameValue ha k
    obtain ⟨l, hl, hv⟩ := exists_labelFor?_of_value hr
    obtain ⟨l', hl', hv'⟩ := exists_labelFor?_of_value hc
    exact ⟨l, l', hl, hl', hv ▸ hr, hv' ▸ hc, String.ofList_injective (hv.symm.trans hv')⟩
  refine ⟨hlines, fun hvalues a ha k l hl => ?_, fun hgives a ha k v hv => ?_⟩
  · rw [← isHash_normalValue_iff]
    refine hvalues a ha k _ (Or.inl ?_)
    show (ExtractMode.labelled.extract x.output).value a k = _
    rw [value_labelled, hl, Option.map_some]
  · obtain ⟨l, l', hl, -, hr, hc, hsame⟩ := hlines a ha k
    have hvl : v = .ofList l.normalValue := by
      rcases hv with hv | hv
      · exact Option.some.inj (hv.symm.trans hr)
      · rw [hsame]
        exact Option.some.inj (hv.symm.trans hc)
    rw [hvl, isHash_normalValue_iff]
    exact hgives a ha k l hl

/-- Reports in different layouts give the same hashes. That a later line of one of them gives none
is of no account. -/
theorem values_of_labelled_pass_of_other_layout :
    let x : Execution := ⟨0, "MD5 hash stored in file: n/a\nMD5 hash calculated over data:\t0F\n"⟩
    let y : Execution := ⟨0,
      "md5 Hash calculated over data : 0f\r\nMD5 hash stored in file: N/A\n" ++
        "MD5 hash stored in file: error\n"⟩
    (Outcome.ofFindings "m" (x.finding .labelled) "n" (y.finding .labelled)).failed = false ∧
    (∀ l ∈ labels x.output.toList, GivesHash l) ∧
    ∀ k v, (x.finding .labelled).hashes.value .md5 k = some v ∨
      (y.finding .labelled).hashes.value .md5 k = some v → IsHash v := by
  intro x y
  have hpass :
      (Outcome.ofFindings "m" (x.finding .labelled) "n" (y.finding .labelled)).failed = false := by
    decide +kernel
  have hgives : ∀ l ∈ labels x.output.toList, GivesHash l := by decide +kernel
  refine ⟨hpass, hgives, fun k => ?_⟩
  refine (values_of_labelled_pass x y "m" "n" hpass).2.mpr (fun a _ k l hl => ?_) .md5
    (Finding.mem_algorithms.mpr (Or.inl rfl)) k
  exact hgives l (List.mem_of_find?_eq_some hl)

/-- Two reports that say `error` where the hashes should be pass. -/
theorem not_isHash_of_labelled_pass :
    ¬ ∀ (x y : Execution) (m n : String),
      (Outcome.ofFindings m (x.finding .labelled) n (y.finding .labelled)).failed = false →
      ∀ a ∈ (x.finding .labelled).algorithms, ∀ k v,
        (x.finding .labelled).hashes.value a k = some v ∨
          (y.finding .labelled).hashes.value a k = some v → IsHash v := by
  intro h
  let x : Execution :=
    ⟨0, "MD5 hash stored in file: error\nMD5 hash calculated over data: error\n"⟩
  have hpass :
      (Outcome.ofFindings "m" (x.finding .labelled) "n" (x.finding .labelled)).failed = false := by
    decide +kernel
  have hvalue : (x.finding .labelled).hashes.value .md5 .stored = some "error" := by
    decide +kernel
  rcases h x x "m" "n" hpass .md5 (Finding.mem_algorithms.mpr (Or.inl rfl)) .stored "error"
    (Or.inl hvalue) with hna | hhex
  · exact absurd hna (by decide)
  · exact absurd (hhex 'r' (by decide)) (by decide)

end CrossCheck
