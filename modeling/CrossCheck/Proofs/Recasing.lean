import CrossCheck.Proofs.LabelledPass
import CrossCheck.Proofs.Lines
import CrossCheck.Proofs.Tokens
import Mathlib.Data.List.Forall2

/-! # Label lines in any letter case

The reader of label lines disregards the case of ASCII letters: what it reads off a text in small
letters is what it reads off the text, in small letters (`labels_lower`). Each part of a line has a
lemma of its own. A slot takes the values in their normal form, in which case plays no part
(`ofLabels_map_lowered`), so a text whose letters are put in another case gives the same hashes
(`byLabels_eq_of_recased`). -/

namespace CrossCheck.Extract

open Text

/-! ### Letters in another case -/

theorem toNat_toUpper (c : Char) :
    c.toUpper.toNat = if 97 ≤ c.toNat ∧ c.toNat ≤ 122 then c.toNat - 32 else c.toNat := by
  unfold Char.toUpper
  split_ifs with h h' h'
  · show (c.val + ('A'.val - 'a'.val)).toNat = c.val.toNat - 32
    have hd : ('A'.val - 'a'.val).toNat = 2 ^ 32 - 32 := by decide
    have hc : 97 ≤ c.val.toNat ∧ c.val.toNat ≤ 122 := h'
    rw [UInt32.toNat_add, hd]
    omega
  · exact absurd h h'
  · exact absurd h' h
  · rfl

/-- **Letters in another case:** each character stays as it is or is made a capital or a small
letter. -/
def Recased : List Char → List Char → Prop :=
  List.Forall₂ fun c d => d = c ∨ d = c.toUpper ∨ d = c.toLower

theorem toLower_eq_toLower_iff {c d : Char} :
    c.toLower = d.toLower ↔ d = c ∨ d = c.toUpper ∨ d = c.toLower := by
  simp only [← Char.toNat_inj, toNat_toLower, toNat_toUpper]
  split_ifs <;> omega

theorem recased_iff {s t : List Char} : Recased s t ↔ lower s = lower t := by
  unfold Recased lower
  rw [← List.forall₂_eq_eq_eq, List.forall₂_map_left_iff, List.forall₂_map_right_iff]
  simp only [toLower_eq_toLower_iff]

instance (s t : List Char) : Decidable (Recased s t) := decidable_of_iff _ recased_iff.symm

theorem toLower_toLower (c : Char) : c.toLower.toLower = c.toLower := by
  simp only [← Char.toNat_inj, toNat_toLower]
  split_ifs <;> omega

@[simp]
theorem lower_lower (s : List Char) : lower (lower s) = lower s := by
  unfold lower
  rw [List.map_map]
  exact List.map_congr_left fun c _ => toLower_toLower c

/-- A class of characters without letters is one of small letters. -/
theorem class_toLower {p : Char → Bool}
    (hp : ∀ c, 65 ≤ c.toNat → c.toNat ≤ 122 → p c = false) (c : Char) : p c.toLower = p c := by
  have hc := toNat_toLower c
  split_ifs at hc with h
  · rw [hp c h.1 (by omega), hp c.toLower (by omega) (by omega)]
  · rw [Char.toNat_inj.mp hc]

theorem isWhitespace_toLower (c : Char) : isWhitespace c.toLower = isWhitespace c := by
  refine class_toLower (fun c h1 h2 => Bool.eq_false_iff.mpr fun hw => ?_) c
  have h := toNat_of_isWhitespace hw
  omega

theorem isBlank_toLower (c : Char) : isBlank c.toLower = isBlank c := by
  refine class_toLower (fun c h1 h2 => Bool.eq_false_iff.mpr fun hb => ?_) c
  have h := toNat_of_isWhitespace (isWhitespace_of_isBlank hb)
  omega

/-- A character that is no letter of ASCII is made of no other one. -/
theorem toLower_eq_iff {x : Char} (hx : x.toNat < 65 ∨ 122 < x.toNat) {c : Char} :
    c.toLower = x ↔ c = x := by
  simp only [← Char.toNat_inj, toNat_toLower]
  split_ifs <;> omega

theorem fold_toLower (c : Char) : fold c.toLower = fold c := by
  have hs : c.toLower = '\u017f' ↔ c = '\u017f' := toLower_eq_iff (by decide)
  have hk : c.toLower = '\u212a' ↔ c = '\u212a' := toLower_eq_iff (by decide)
  unfold fold
  simp only [hs, hk, toLower_toLower]

theorem map_fold_lower (s : List Char) : (lower s).map fold = s.map fold := by
  unfold lower
  rw [List.map_map]
  exact List.map_congr_left fun c _ => fold_toLower c

/-! ### Reading small letters -/

theorem dropWhile_isBlank_lower (s : List Char) :
    (lower s).dropWhile isBlank = lower (s.dropWhile isBlank) := by
  unfold lower
  rw [List.dropWhile_map, show isBlank ∘ Char.toLower = isBlank from funext isBlank_toLower]

theorem spelled?_lower (word s : List Char) :
    spelled? word (lower s) = (spelled? word s).map (Prod.map lower lower) := by
  have htake : (lower s).take word.length = lower (s.take word.length) := List.map_take.symm
  have hdrop : (lower s).drop word.length = lower (s.drop word.length) := List.map_drop.symm
  simp only [spelled?, htake, hdrop, map_fold_lower]
  split_ifs <;> rfl

theorem blanks?_lower (s : List Char) : blanks? (lower s) = (blanks? s).map lower := by
  rcases s with _ | ⟨c, s⟩
  · rfl
  · rw [lower, List.map_cons, blanks?, blanks?, isBlank_toLower, ← lower, dropWhile_isBlank_lower]
    split_ifs <;> rfl

theorem colon?_lower (s : List Char) : colon? (lower s) = (colon? s).map lower := by
  have hcolon : ∀ c : Char, c.toLower = ':' ↔ c = ':' := fun c => toLower_eq_iff (by decide)
  ext rest
  simp only [colon?_eq_some_iff, Option.map_eq_some_iff]
  rcases s with _ | ⟨c, s⟩
  · simp [lower]
  · constructor
    · intro h
      obtain ⟨hc, rfl⟩ := List.cons.inj h
      exact ⟨s, by rw [(hcolon c).mp hc], rfl⟩
    · rintro ⟨s, h, rfl⟩
      obtain ⟨rfl, rfl⟩ := List.cons.inj h
      rfl

theorem algorithm?_lower (s : List Char) :
    Label.algorithm? (lower s) = (Label.algorithm? s).map (Prod.map id lower) := by
  unfold Label.algorithm?
  rw [spelled?_lower, spelled?_lower]
  rcases spelled? Algorithm.md5.labelWord s with _ | p
  · rcases spelled? Algorithm.sha1.labelWord s with _ | p <;> rfl
  · rfl

theorem kind?_lower (s : List Char) :
    Label.kind? (lower s) = (Label.kind? s).map (Prod.map id (Prod.map lower lower)) := by
  unfold Label.kind?
  rw [spelled?_lower, spelled?_lower]
  rcases spelled? HashKind.stored.labelWords s with _ | p
  · rcases spelled? HashKind.computed.labelWords s with _ | p <;> rfl
  · rfl

theorem value?_lower (s : List Char) :
    Label.value? (lower s) = (Label.value? s).map lower := by
  have hsolid : (fun c => !isWhitespace c) ∘ Char.toLower = fun c => !isWhitespace c :=
    funext fun c => congrArg not (isWhitespace_toLower c)
  have htrail : (fun c => isBlank c || decide (c = '\r')) ∘ Char.toLower =
      fun c => isBlank c || decide (c = '\r') := by
    funext c
    have hr : c.toLower = '\r' ↔ c = '\r' := toLower_eq_iff (by decide)
    simp only [Function.comp_apply, isBlank_toLower, hr]
  simp only [Label.value?, lower, List.takeWhile_map, List.dropWhile_map, hsolid, List.all_map,
    htrail, List.isEmpty_map]
  split_ifs <;> rfl

/-- The label with its texts in small letters. -/
def Label.lowered (l : Label) : Label :=
  { l with spelling := lower l.spelling, value := lower l.value }

/-- **A line in small letters** says the same in small letters. -/
theorem ofLine?_lower (line : List Char) :
    Label.ofLine? (lower line) = (Label.ofLine? line).map Label.lowered := by
  simp only [Label.ofLine?, dropWhile_isBlank_lower, algorithm?_lower, blanks?_lower,
    spelled?_lower, kind?_lower, colon?_lower, value?_lower, Option.bind_eq_bind, Option.bind_map,
    Option.map_bind, Function.comp_def, Prod.map, id]
  rfl

theorem labels_lower_of_newline_notMem {line : List Char} (h : '\n' ∉ line) :
    labels (lower line) = (labels line).map Label.lowered := by
  have hlower : '\n' ∉ lower line := by
    intro hn
    obtain ⟨c, hc, hcn⟩ := List.mem_map.mp hn
    exact h ((toLower_eq_iff (by decide)).mp hcn ▸ hc)
  rw [labels_of_newline_notMem h, labels_of_newline_notMem hlower, ofLine?_lower]
  cases Label.ofLine? line <;> rfl

/-- **A text in small letters** has the label lines of the text, in small letters. -/
theorem labels_lower (s : List Char) : labels (lower s) = (labels s).map Label.lowered := by
  induction s using line_induction '\n' with
  | last line h => exact labels_lower_of_newline_notMem h
  | line l rest h ih =>
    have hlower : lower (l ++ '\n' :: rest) = lower l ++ '\n' :: lower rest := by
      simp [lower]
    rw [hlower, labels_append_newline, labels_append_newline, labels_lower_of_newline_notMem h, ih,
      List.map_append]

/-! ### Hashes -/

theorem sameLetters_lower (s t : List Char) : sameLetters (lower s) t = sameLetters s t := by
  unfold sameLetters
  rw [lower_lower]

theorem Label.slot_lowered (l : Label) : l.lowered.slot = l.slot := by
  simp only [Label.slot, Label.lowered, sameLetters_lower]

theorem Label.normalValue_lowered (l : Label) : l.lowered.normalValue = l.normalValue := by
  simp only [Label.normalValue, Label.lowered, sameLetters_lower, lower_lower]

theorem firstValue_map_lowered (ls : List Label) (a : Algorithm) (k : HashKind) :
    firstValue (ls.map Label.lowered) a k = firstValue ls a k := by
  simp only [firstValue, List.find?_map, Option.map_map, Function.comp_def, Label.slot_lowered,
    Label.normalValue_lowered]
  rfl

theorem ofLabels_map_lowered (ls : List Label) :
    ofLabels (ls.map Label.lowered) = ofLabels ls := by
  simp only [ofLabels, labelPair, firstValue_map_lowered, List.any_map]
  rfl

/-- **Letters in another case** give the same hashes. -/
theorem byLabels_eq_of_recased {s t : List Char} (h : Recased s t) : byLabels t = byLabels s :=
  calc byLabels t
    _ = ofLabels (labels (lower t)) := by rw [labels_lower, ofLabels_map_lowered, byLabels]
    _ = ofLabels (labels (lower s)) := by rw [recased_iff.mp h]
    _ = byLabels s := by rw [labels_lower, ofLabels_map_lowered, byLabels]

end CrossCheck.Extract
