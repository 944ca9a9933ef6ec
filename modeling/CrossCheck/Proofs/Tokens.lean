import CrossCheck.Extract
import Mathlib.Data.List.Basic

/-! # Hash tokens by what stands around them

A word is a hash token of a text if and only if it stands in it between two white space characters
and has the digits of a hash (`mem_hexTokens_iff`). So a text may be cut at any white space
character, which then belongs to both parts: the tokens of the parts one after the other are those
of the text (`hexTokens_append_cons`). -/

namespace CrossCheck.Extract

open Text

/-! ### Characters -/

theorem isLowerHex_iff {c : Char} : isLowerHex c = true ↔
    48 ≤ c.toNat ∧ c.toNat ≤ 57 ∨ 97 ≤ c.toNat ∧ c.toNat ≤ 102 := by
  simp [isLowerHex, Char.le_def, UInt32.le_iff_toNat_le]

theorem toNat_of_isWhitespace {c : Char} (h : isWhitespace c = true) :
    c.toNat ≤ 32 ∨ 128 ≤ c.toNat := by
  simp only [isWhitespace, Bool.or_eq_true, Bool.and_eq_true, decide_eq_true_eq, Char.le_def,
    UInt32.le_iff_toNat_le, ← Char.toNat_inj, Char.reduceToNat, Char.reduceVal,
    UInt32.reduceToNat, Char.toNat_val] at h
  omega

theorem isWhitespace_of_isLowerHex {c : Char} (h : isLowerHex c = true) :
    isWhitespace c = false := by
  rw [Bool.eq_false_iff]
  intro hw
  have hx := isLowerHex_iff.mp h
  have hs := toNat_of_isWhitespace hw
  omega

theorem toLower_of_isLowerHex {c : Char} (h : isLowerHex c = true) : c.toLower = c := by
  have hx := isLowerHex_iff.mp h
  unfold Char.toLower
  rw [dif_neg]
  rintro ⟨h1, h2⟩
  have h1' : 65 ≤ c.toNat := h1
  have h2' : c.toNat ≤ 90 := h2
  omega

/-! ### Words -/

/-- The word stands in the text between two white space characters. -/
def Bounded (w text : List Char) : Prop :=
  ∃ p c d s, text = p ++ c :: (w ++ d :: s) ∧ isWhitespace c = true ∧ isWhitespace d = true

/-- A word of `n` lower-case hexadecimal digits. -/
def IsHex (n : Nat) (w : List Char) : Prop :=
  w.length = n ∧ ∀ c ∈ w, isLowerHex c = true

instance (n : Nat) (w : List Char) : Decidable (IsHex n w) :=
  decidable_of_iff (w.length = n ∧ w.all isLowerHex = true)
    (and_congr_right fun _ => List.all_eq_true)

theorem Bounded.append {w t : List Char} (h : Bounded w t) (s : List Char) :
    Bounded w (s ++ t) := by
  obtain ⟨p, c, d, r, rfl, hc, hd⟩ := h
  exact ⟨s ++ p, c, d, r, by simp, hc, hd⟩

/-! ### Inner fields -/

theorem innerFields_append_cons (s t : List Char) {c : Char} (hc : isWhitespace c = true) :
    innerFields (s ++ c :: t) = innerFields (s ++ [c]) ++ innerFields (c :: t) := by
  obtain ⟨f, fs, hs⟩ := List.exists_cons_of_ne_nil (List.splitOnP_ne_nil isWhitespace s)
  obtain ⟨g, gs, ht⟩ := List.exists_cons_of_ne_nil (List.splitOnP_ne_nil isWhitespace t)
  have hct : (c :: t).splitOnP isWhitespace = [] :: g :: gs := by
    rw [List.splitOnP_cons_eq_if_modifyHead, if_pos hc, ht]
  unfold innerFields
  rw [List.splitOnP_append_cons _ _ hc, List.splitOnP_append_cons _ _ hc, hct, hs, ht,
    List.splitOnP_nil]
  simp

theorem innerFields_of_solid {s : List Char} (hs : ∀ c ∈ s, isWhitespace c = false) :
    innerFields s = [] := by
  unfold innerFields
  rw [List.splitOnP_eq_singleton hs]
  rfl

theorem innerFields_cons_of_solid {c : Char} (hc : isWhitespace c = true) {s : List Char}
    (hs : ∀ c ∈ s, isWhitespace c = false) : innerFields (c :: s) = [] := by
  unfold innerFields
  rw [List.splitOnP_cons_eq_if_modifyHead, if_pos hc, List.splitOnP_eq_singleton hs]
  rfl

theorem innerFields_solid_append {w : List Char} (hw : ∀ c ∈ w, isWhitespace c = false) {c : Char}
    (hc : isWhitespace c = true) (t : List Char) :
    innerFields (w ++ c :: t) = innerFields (c :: t) := by
  unfold innerFields
  rw [List.splitOnP_append_cons_of_forall_mem hw c hc, List.splitOnP_cons_eq_if_modifyHead,
    if_pos hc]
  rfl

theorem innerFields_bounded {w : List Char} {c d : Char} (hc : isWhitespace c = true)
    (hd : isWhitespace d = true) (hw : ∀ x ∈ w, isWhitespace x = false) :
    innerFields (c :: (w ++ [d])) = [w] := by
  unfold innerFields
  rw [List.splitOnP_cons_eq_if_modifyHead, if_pos hc,
    List.splitOnP_append_cons_of_forall_mem hw d hd]
  rfl

theorem innerFields_cons_append {w : List Char} {c d : Char} (hc : isWhitespace c = true)
    (hd : isWhitespace d = true) (hw : ∀ x ∈ w, isWhitespace x = false) (t : List Char) :
    innerFields (c :: (w ++ d :: t)) = w :: innerFields (d :: t) := by
  rw [← List.cons_append, innerFields_append_cons _ _ hd, List.cons_append,
    innerFields_bounded hc hd hw]
  rfl

theorem solid_or_exists_first (text : List Char) :
    (∀ c ∈ text, isWhitespace c = false) ∨ ∃ w c t, text = w ++ c :: t ∧
      (∀ x ∈ w, isWhitespace x = false) ∧ isWhitespace c = true := by
  rcases h : text.find? isWhitespace with _ | c
  · exact Or.inl (by simpa using h)
  · obtain ⟨hc, w, t, rfl, hw⟩ := List.find?_eq_some_iff_append.mp h
    exact Or.inr ⟨w, c, t, rfl, by simpa using hw, hc⟩

theorem bounded_of_mem_innerFields {w : List Char} {c : Char} (hc : isWhitespace c = true)
    (t : List Char) (h : w ∈ innerFields (c :: t)) :
    Bounded w (c :: t) ∧ ∀ x ∈ w, isWhitespace x = false := by
  -- From one white space character to the next.
  rcases solid_or_exists_first t with ht | ⟨v, d, u, rfl, hv, hd⟩
  · rw [innerFields_cons_of_solid hc ht] at h
    cases h
  · rw [innerFields_cons_append hc hd hv, List.mem_cons] at h
    rcases h with rfl | h
    · exact ⟨⟨[], c, d, u, rfl, hc, hd⟩, hv⟩
    · obtain ⟨hb, hw⟩ := bounded_of_mem_innerFields hd u h
      exact ⟨hb.append (c :: v), hw⟩
termination_by t.length

/-- **The inner fields** are the words between white space. -/
theorem mem_innerFields_iff {w text : List Char} :
    w ∈ innerFields text ↔ Bounded w text ∧ ∀ c ∈ w, isWhitespace c = false := by
  constructor
  · intro h
    rcases solid_or_exists_first text with ht | ⟨v, c, t, rfl, hv, hc⟩
    · rw [innerFields_of_solid ht] at h
      cases h
    · rw [innerFields_solid_append hv hc] at h
      obtain ⟨hb, hw⟩ := bounded_of_mem_innerFields hc t h
      exact ⟨hb.append v, hw⟩
  · rintro ⟨⟨p, c, d, s, rfl, hc, hd⟩, hw⟩
    rw [innerFields_append_cons _ _ hc, innerFields_cons_append hc hd hw]
    simp

/-! ### Hash tokens -/

theorem hexTokens_append_cons (n : Nat) (s t : List Char) {c : Char}
    (hc : isWhitespace c = true) :
    hexTokens n (s ++ c :: t) = hexTokens n (s ++ [c]) ++ hexTokens n (c :: t) := by
  unfold hexTokens
  rw [innerFields_append_cons s t hc, List.filter_append]

/-- **Hash tokens** stand between white space and have the digits of a hash. -/
theorem mem_hexTokens_iff {n : Nat} (hn : 0 < n) {w text : List Char} :
    w ∈ hexTokens n text ↔ IsHex n w ∧ Bounded w text := by
  unfold hexTokens IsHex
  simp only [List.mem_filter, mem_innerFields_iff, Bool.and_eq_true, Bool.not_eq_true',
    List.isEmpty_eq_false_iff, beq_iff_eq, List.all_eq_true]
  constructor
  · rintro ⟨⟨hb, -⟩, ⟨-, hl⟩, hx⟩
    exact ⟨⟨hl, hx⟩, hb⟩
  · rintro ⟨⟨rfl, hx⟩, hb⟩
    exact ⟨⟨hb, fun c hc => isWhitespace_of_isLowerHex (hx c hc)⟩,
      ⟨List.ne_nil_of_length_pos hn, rfl⟩, hx⟩

theorem hexTokens_eq_nil_of_countP {n : Nat} {text : List Char}
    (h : text.countP isLowerHex < n) : hexTokens n text = [] := by
  rw [List.eq_nil_iff_forall_not_mem]
  intro w hw
  obtain ⟨⟨rfl, hx⟩, p, c, d, s, rfl, -, -⟩ := (mem_hexTokens_iff (Nat.zero_lt_of_lt h)).mp hw
  have hcount : w.countP isLowerHex = w.length := List.countP_eq_length.mpr hx
  simp only [List.countP_append, List.countP_cons] at h
  omega

theorem hexTokens_cons_append {n : Nat} (hn : 0 < n) {w : List Char} (hw : IsHex n w)
    {c d : Char} (hc : isWhitespace c = true) (hd : isWhitespace d = true) (t : List Char) :
    hexTokens n (c :: (w ++ d :: t)) = w :: hexTokens n (d :: t) := by
  have hsolid : ∀ x ∈ w, isWhitespace x = false := fun x hx =>
    isWhitespace_of_isLowerHex (hw.2 x hx)
  unfold hexTokens
  rw [innerFields_cons_append hc hd hsolid, List.filter_cons_of_pos]
  obtain ⟨rfl, hx⟩ := hw
  simpa [List.length_pos_iff.mp hn] using hx

theorem hexTokens_cons_append_of_not_isHex {n : Nat} {w : List Char} (hw : ¬ IsHex n w)
    (hs : ∀ x ∈ w, isWhitespace x = false) {c d : Char} (hc : isWhitespace c = true)
    (hd : isWhitespace d = true) (t : List Char) :
    hexTokens n (c :: (w ++ d :: t)) = hexTokens n (d :: t) := by
  unfold hexTokens
  rw [innerFields_cons_append hc hd hs, List.filter_cons_of_neg]
  simp only [Bool.and_eq_true, beq_iff_eq, List.all_eq_true, not_and]
  exact fun hlen hx => hw ⟨hlen.2, hx⟩

end CrossCheck.Extract
