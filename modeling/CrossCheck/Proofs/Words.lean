import CrossCheck.Proofs.Sequences
import CrossCheck.Text.Whitespace
import Mathlib.Data.List.Infix

/-! # Words

The words of a text are its maximal runs of characters other than white space, which is said by a
relation of its own (`Words`). Cutting the text at each white space character and leaving out what
is empty gives these words (`words_eq_iff`). Trimming takes white space off the two ends and nothing
else (`exists_trim`), so it leaves the words as they are (`words_trim`), and there is nothing more
to take off after it (`trim_trim`). -/

namespace CrossCheck.Text

/-- **The words of a text** in order: each is a run of characters other than white space, after
white space or at the start, and before white space or at the end. -/
inductive Words : List Char → List (List Char) → Prop
  | nil {s : List Char} : (∀ c ∈ s, isWhitespace c = true) → Words s []
  | cons {g w s : List Char} {ws : List (List Char)} : (∀ c ∈ g, isWhitespace c = true) →
    w ≠ [] → (∀ c ∈ w, isWhitespace c = false) → (∀ c ∈ s.head?, isWhitespace c = true) →
    Words s ws → Words (g ++ (w ++ s)) (w :: ws)

/-! ### Cutting at white space -/

theorem words_append_cons (s t : List Char) {c : Char} (hc : isWhitespace c = true) :
    words (s ++ c :: t) = words s ++ words t := by
  unfold words
  rw [List.splitOnP_append_cons _ _ hc, List.filter_append]

theorem words_of_solid {w : List Char} (hne : w ≠ []) (hw : ∀ c ∈ w, isWhitespace c = false) :
    words w = [w] := by
  unfold words
  rw [List.splitOnP_eq_singleton hw, List.filter_cons_of_pos (by simpa using hne), List.filter_nil]

theorem words_nil : words [] = [] := rfl

theorem words_white_append {g : List Char} (hg : ∀ c ∈ g, isWhitespace c = true) (s : List Char) :
    words (g ++ s) = words s := by
  induction g with
  | nil => rfl
  | cons c g ih =>
    obtain ⟨hc, hg⟩ := List.forall_mem_cons.mp hg
    rw [← ih hg]
    exact words_append_cons [] (g ++ s) hc

theorem words_of_white {g : List Char} (hg : ∀ c ∈ g, isWhitespace c = true) : words g = [] := by
  rw [← List.append_nil g, words_white_append hg, words_nil]

theorem words_append_white (s : List Char) {g : List Char}
    (hg : ∀ c ∈ g, isWhitespace c = true) : words (s ++ g) = words s := by
  rcases g with _ | ⟨c, g⟩
  · rw [List.append_nil]
  · obtain ⟨hc, hg⟩ := List.forall_mem_cons.mp hg
    rw [words_append_cons s g hc, words_of_white hg, List.append_nil]

theorem words_solid_append {w s : List Char} (hne : w ≠ [])
    (hw : ∀ c ∈ w, isWhitespace c = false) (hs : ∀ c ∈ s.head?, isWhitespace c = true) :
    words (w ++ s) = w :: words s := by
  rcases s with _ | ⟨c, s⟩
  · rw [List.append_nil, words_of_solid hne hw, words_nil]
  · have hc : isWhitespace c = true := hs c rfl
    rw [words_append_cons w s hc, words_of_solid hne hw, List.singleton_append]
    exact congrArg (w :: ·) (words_append_cons [] s hc).symm

theorem Words.words_eq {s : List Char} {ws : List (List Char)} (h : Words s ws) :
    words s = ws := by
  induction h with
  | nil hs => exact words_of_white hs
  | cons hg hne hw hs _ ih => rw [words_white_append hg, words_solid_append hne hw hs, ih]

/-- One more character in front of a text belongs to the white space before its first word, to that
word, or makes a word of its own. -/
theorem Words.exists_cons {s : List Char} {ws : List (List Char)} (h : Words s ws) (c : Char) :
    ∃ vs, Words (c :: s) vs := by
  rcases hc : isWhitespace c with _ | _
  · have hsolid : ∀ d ∈ [c], isWhitespace d = false := by simpa using hc
    cases h with
    | nil hs => exact ⟨_, .cons (g := []) (by simp) (List.cons_ne_nil c []) hsolid
        (fun d hd => hs d (List.mem_of_mem_head? hd)) (.nil hs)⟩
    | @cons g w s ws hg hne hw hs h =>
      rcases g with _ | ⟨d, g⟩
      · exact ⟨_, .cons (g := []) (w := c :: w) (by simp) (List.cons_ne_nil c w)
          (List.forall_mem_cons.mpr ⟨hc, hw⟩) hs h⟩
      · have hd : ∀ e ∈ (d :: g ++ (w ++ s)).head?, isWhitespace e = true := by
          simpa using (List.forall_mem_cons.mp hg).1
        exact ⟨_, .cons (g := []) (by simp) (List.cons_ne_nil c []) hsolid hd
          (.cons hg hne hw hs h)⟩
  · cases h with
    | nil hs => exact ⟨_, .nil (List.forall_mem_cons.mpr ⟨hc, hs⟩)⟩
    | cons hg hne hw hs h => exact ⟨_, .cons (List.forall_mem_cons.mpr ⟨hc, hg⟩) hne hw hs h⟩

theorem exists_words (s : List Char) : ∃ ws, Words s ws := by
  induction s with
  | nil => exact ⟨[], .nil (by simp)⟩
  | cons c s ih =>
    obtain ⟨ws, h⟩ := ih
    exact h.exists_cons c

/-- **Cutting a text at white space** gives its words. -/
theorem words_eq_iff {s : List Char} {ws : List (List Char)} : words s = ws ↔ Words s ws := by
  constructor
  · rintro rfl
    obtain ⟨ws, h⟩ := exists_words s
    rwa [h.words_eq]
  · exact Words.words_eq

theorem Words.solid {s : List Char} {ws : List (List Char)} (h : Words s ws) :
    ∀ w ∈ ws, w ≠ [] ∧ ∀ c ∈ w, isWhitespace c = false := by
  induction h with
  | nil _ => simp
  | cons _ hne hw _ _ ih => exact List.forall_mem_cons.mpr ⟨⟨hne, hw⟩, ih⟩

theorem words_eq_nil_iff {s : List Char} : words s = [] ↔ ∀ c ∈ s, isWhitespace c = true := by
  rw [words_eq_iff]
  constructor
  · intro h
    cases h with
    | nil hs => exact hs
  · exact Words.nil

/-! ### Trimming -/

theorem exists_trimEnd (s : List Char) :
    ∃ h, s = trimEnd s ++ h ∧ ∀ c ∈ h, isWhitespace c = true := by
  refine ⟨(s.reverse.takeWhile isWhitespace).reverse, ?_, ?_⟩
  · rw [trimEnd, ← List.reverse_append, List.takeWhile_append_dropWhile, List.reverse_reverse]
  · intro c hc
    exact List.mem_takeWhile_imp (List.mem_reverse.mp hc)

/-- **What is trimmed off** is white space at the two ends. -/
theorem exists_trim (s : List Char) :
    ∃ g h, s = g ++ (trim s ++ h) ∧ (∀ c ∈ g, isWhitespace c = true) ∧
      ∀ c ∈ h, isWhitespace c = true := by
  obtain ⟨h, hs, hh⟩ := exists_trimEnd (s.dropWhile isWhitespace)
  refine ⟨s.takeWhile isWhitespace, h, ?_, fun c hc => List.mem_takeWhile_imp hc, hh⟩
  rw [trim, ← hs, List.takeWhile_append_dropWhile]

/-- **Trimming leaves the words** as they are. -/
theorem words_trim (s : List Char) : words (trim s) = words s := by
  obtain ⟨g, h, hs, hg, hh⟩ := exists_trim s
  calc words (trim s)
    _ = words (g ++ (trim s ++ h)) := by rw [words_white_append hg, words_append_white _ hh]
    _ = words s := by rw [← hs]

theorem trim_eq_nil_iff {s : List Char} : trim s = [] ↔ words s = [] := by
  constructor
  · intro h
    rw [← words_trim, h, words_nil]
  · intro h
    have hs : s.dropWhile isWhitespace = [] := List.dropWhile_eq_nil_iff.mpr (words_eq_nil_iff.mp h)
    rw [trim, hs]
    rfl

theorem head?_trim (s : List Char) : ∀ c ∈ (trim s).head?, isWhitespace c = false := by
  intro c hc
  obtain ⟨h, hs, -⟩ := exists_trimEnd (s.dropWhile isWhitespace)
  refine head?_dropWhile (s := s) c ?_
  rw [hs, List.head?_append, ← trim, Option.mem_def.mp hc]
  rfl

theorem getLast?_trim (s : List Char) : ∀ c ∈ (trim s).getLast?, isWhitespace c = false := by
  rw [trim, trimEnd, List.getLast?_reverse]
  exact head?_dropWhile

theorem trimEnd_of_getLast? {s : List Char} (h : ∀ c ∈ s.getLast?, isWhitespace c = false) :
    trimEnd s = s := by
  rw [trimEnd, dropWhile_of_head? (by simpa using h), List.reverse_reverse]

/-- White space after a text that ends in none is all that is taken off its end. -/
theorem trimEnd_append_white {s h : List Char} (hs : ∀ c ∈ s.getLast?, isWhitespace c = false)
    (hh : ∀ c ∈ h, isWhitespace c = true) : trimEnd (s ++ h) = s := by
  rw [trimEnd, List.reverse_append, List.dropWhile_append_of_pos (by simpa using hh), ← trimEnd,
    trimEnd_of_getLast? hs]

/-- **A text between white space** is what is left of it. -/
theorem trim_white_append {g s h : List Char} (hg : ∀ c ∈ g, isWhitespace c = true)
    (hfirst : ∀ c ∈ s.head?, isWhitespace c = false)
    (hlast : ∀ c ∈ s.getLast?, isWhitespace c = false) (hh : ∀ c ∈ h, isWhitespace c = true) :
    trim (g ++ (s ++ h)) = s := by
  rw [trim, List.dropWhile_append_of_pos hg]
  rcases s with _ | ⟨c, s⟩
  · rw [List.nil_append, List.dropWhile_eq_nil_iff.mpr hh]
    rfl
  · rw [List.cons_append, List.dropWhile_cons_of_neg (by simp [hfirst c rfl]), ← List.cons_append,
      trimEnd_append_white hlast hh]

theorem trim_trim (s : List Char) : trim (trim s) = trim s :=
  calc trim (trim s)
    _ = trimEnd (trim s) := by rw [trim, dropWhile_of_head? (head?_trim s)]
    _ = trim s := trimEnd_of_getLast? (getLast?_trim s)

end CrossCheck.Text
