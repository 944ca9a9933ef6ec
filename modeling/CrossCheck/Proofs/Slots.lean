import CrossCheck.Extract
import CrossCheck.Proofs.Comparison

/-! # The slots of extracted hashes

What is extracted from a text has a value or none for each algorithm and kind. These four slots tell
everything: a SHA1 pair is there if and only if the text gives a SHA1 value
(`isSome_sha1_extract_iff`), so hashes with the same slots are the same (`Hashes.eq_of_value`). -/

namespace CrossCheck

namespace Extract

/-! ### Values by position -/

theorem value_byTokens (text : List Char) (a : Algorithm) (k : HashKind) :
    (byTokens text).value a k = (tokenPair a text).get k := by
  cases a with
  | md5 => rfl
  | sha1 =>
    unfold byTokens Hashes.value
    rcases h : hexTokens Algorithm.sha1.digits text with _ | ⟨w, ws⟩
    · simp only [List.isEmpty_nil, if_true, Option.getD_none, tokenPair, h]
      rfl
    · rfl

theorem isSome_sha1_byTokens_iff (text : List Char) :
    (byTokens text).sha1.isSome ↔ ∃ k v, (byTokens text).value .sha1 k = some v := by
  unfold byTokens Hashes.value tokenPair
  rcases hexTokens Algorithm.sha1.digits text with _ | ⟨w, ws⟩
  · simp only [List.isEmpty_nil, if_true, Option.isSome_none, Bool.false_eq_true, false_iff]
    rintro ⟨_ | _, v, hv⟩ <;> cases hv
  · simp only [List.isEmpty_cons, Bool.false_eq_true, if_false, Option.isSome_some, true_iff]
    exact ⟨.stored, .ofList w, rfl⟩

/-! ### Values by label lines -/

theorem get_labelPair (ls : List Label) (a : Algorithm) (k : HashKind) :
    (labelPair ls a).get k = firstValue ls a k := by cases k <;> rfl

theorem value_ofLabels (ls : List Label) (a : Algorithm) (k : HashKind) :
    (ofLabels ls).value a k = firstValue ls a k := by
  cases a with
  | md5 => exact get_labelPair ls .md5 k
  | sha1 =>
    unfold ofLabels Hashes.value
    rcases h : ls.any (fun l => l.algorithm = .sha1) with _ | _
    · have hnone : firstValue ls .sha1 k = none := by
        simp only [firstValue, Option.map_eq_none_iff, List.find?_eq_none, Bool.and_eq_true,
          decide_eq_true_eq, not_and]
        intro l hl ha
        exact absurd ha (by simpa using List.any_eq_false.mp h l hl)
      rw [hnone]
      cases k <;> rfl
    · exact get_labelPair ls .sha1 k

theorem sha1_ofLabels_eq_none_iff {ls : List Label} :
    (ofLabels ls).sha1 = none ↔ ∀ l ∈ ls, l.algorithm ≠ .sha1 := by
  unfold ofLabels
  split_ifs with h
  · obtain ⟨l, hl, ha⟩ := List.any_eq_true.mp h
    exact iff_of_false (by simp) fun hno => hno l hl (of_decide_eq_true ha)
  · simpa using h

theorem exists_firstValue {ls : List Label} {l : Label} (h : l ∈ ls) :
    ∃ v, firstValue ls l.algorithm l.slot = some v := by
  unfold firstValue
  rw [← Option.isSome_iff_exists, Option.isSome_map, List.find?_isSome]
  exact ⟨l, h, by simp⟩

theorem isSome_sha1_ofLabels_iff (ls : List Label) :
    (ofLabels ls).sha1.isSome ↔ ∃ k v, (ofLabels ls).value .sha1 k = some v := by
  unfold ofLabels Hashes.value
  rcases h : ls.any (fun l => l.algorithm = .sha1) with _ | _
  · simp only [Bool.false_eq_true, if_false, Option.isSome_none, false_iff]
    rintro ⟨_ | _, v, hv⟩ <;> cases hv
  · simp only [if_true, Option.isSome_some, true_iff, Option.getD_some, get_labelPair]
    obtain ⟨l, hl, ha⟩ := List.any_eq_true.mp h
    rw [← of_decide_eq_true ha]
    exact ⟨l.slot, exists_firstValue hl⟩

end Extract

/-- A finding has a SHA1 pair exactly if the text gives a SHA1 value. -/
theorem isSome_sha1_extract_iff (mode : ExtractMode) (report : String) :
    (mode.extract report).sha1.isSome ↔ ∃ k v, (mode.extract report).value .sha1 k = some v := by
  cases mode with
  | tokens => exact Extract.isSome_sha1_byTokens_iff _
  | labelled => exact Extract.isSome_sha1_ofLabels_iff _

namespace Hashes

theorem isSome_sha1_iff {h : Hashes} (hs : h.sha1 ≠ some {}) :
    h.sha1.isSome ↔ ∃ k v, h.value .sha1 k = some v := by
  unfold value
  rcases h1 : h.sha1 with _ | ⟨_ | s, _ | c⟩
  · simp only [Option.isSome_none, Bool.false_eq_true, false_iff]
    rintro ⟨_ | _, v, hv⟩ <;> cases hv
  · exact absurd h1 hs
  · exact iff_of_true rfl ⟨.computed, c, rfl⟩
  · exact iff_of_true rfl ⟨.stored, s, rfl⟩
  · exact iff_of_true rfl ⟨.stored, s, rfl⟩

/-- Hashes with the same slots are the same, if neither has a SHA1 pair without any value. -/
theorem eq_of_value {g h : Hashes} (hg : g.sha1.isSome ↔ ∃ k v, g.value .sha1 k = some v)
    (hh : h.sha1.isSome ↔ ∃ k v, h.value .sha1 k = some v)
    (hv : ∀ a k, g.value a k = h.value a k) : g = h := by
  have hpair : ∀ p q : HashPair, (∀ k, p.get k = q.get k) → p = q :=
    fun ⟨_, _⟩ ⟨_, _⟩ hk => HashPair.mk.injEq .. ▸ ⟨hk .stored, hk .computed⟩
  have hs : g.sha1.isSome = h.sha1.isSome := by
    rw [Bool.eq_iff_iff, hg, hh]
    simp only [hv]
  obtain ⟨p, s⟩ := g
  obtain ⟨q, t⟩ := h
  obtain rfl : p = q := hpair p q (hv .md5)
  rcases s with _ | s <;> rcases t with _ | t
  · rfl
  · cases hs
  · cases hs
  · rw [hpair s t (hv .sha1)]

end Hashes

end CrossCheck
