import CrossCheck.Extract
import Mathlib.Data.List.Find
import Mathlib.Data.List.Infix
import Mathlib.Data.List.TakeWhile

/-! # The grammar of label lines

A label line is put together from its parts (`LabelLine`): the words of an algorithm, of `hash` and
of a kind in some spelling, a colon and a value, with blanks between them. The reader accepts a line
if and only if it is put together like this, and reads off it what was put there
(`ofLine?_eq_some_iff`). Blanks and carriage returns at the end of a line make no difference
(`ofLine?_append_trail`).

The label lines of a text are those of its parts, wherever it is cut at a newline
(`labels_append_newline`). -/

namespace CrossCheck.Extract

open Text

/-! ### Characters -/

theorem isBlank_iff {c : Char} : isBlank c = true ↔ c = ' ' ∨ c = '\t' := by
  simp [isBlank]

theorem isWhitespace_of_isBlank {c : Char} (h : isBlank c = true) : isWhitespace c = true := by
  rcases isBlank_iff.mp h with rfl | rfl <;> decide

theorem isWhitespace_of_trail {c : Char} (h : isBlank c = true ∨ c = '\r') :
    isWhitespace c = true := by
  rcases h with h | rfl
  · exact isWhitespace_of_isBlank h
  · decide

theorem ne_newline_of_trail {c : Char} (h : isBlank c = true ∨ c = '\r') : c ≠ '\n' := by
  rintro rfl
  exact absurd h (by decide)

/-! ### Spellings -/

theorem spelled?_eq_some_iff {word text w rest : List Char} :
    spelled? word text = some (w, rest) ↔ text = w ++ rest ∧ w.map fold = word := by
  simp only [spelled?, Option.ite_none_right_eq_some, Option.some.injEq, Prod.mk.injEq]
  constructor
  · rintro ⟨hw, rfl, rfl⟩
    exact ⟨(List.take_append_drop ..).symm, hw⟩
  · rintro ⟨rfl, rfl⟩
    simp

/-- A text starts with at most one of two words of which neither begins the other. -/
theorem spelled?_eq_none {u v text w rest : List Char} (huv : ¬ u <+: v) (hvu : ¬ v <+: u)
    (h : spelled? v text = some (w, rest)) : spelled? u text = none := by
  rw [Option.eq_none_iff_forall_ne_some]
  rintro ⟨w', rest'⟩ h'
  obtain ⟨ht, rfl⟩ := spelled?_eq_some_iff.mp h
  obtain ⟨ht', rfl⟩ := spelled?_eq_some_iff.mp h'
  rcases List.prefix_or_prefix_of_prefix ⟨rest, ht.symm⟩ ⟨rest', ht'.symm⟩ with hp | hp
  · exact hvu (hp.map fold)
  · exact huv (hp.map fold)

theorem algorithm?_eq_some_iff {text rest : List Char} {a : Algorithm} :
    Label.algorithm? text = some (a, rest) ↔
      ∃ w, text = w ++ rest ∧ w.map fold = a.labelWord := by
  simp only [← spelled?_eq_some_iff]
  unfold Label.algorithm?
  constructor
  · intro h
    rcases h5 : spelled? Algorithm.md5.labelWord text with _ | ⟨w, r⟩
    · rw [h5] at h
      obtain ⟨⟨w, r⟩, h1, h'⟩ := Option.map_eq_some_iff.mp h
      cases h'
      exact ⟨w, h1⟩
    · simp only [h5, Option.map_some] at h
      cases h
      exact ⟨w, h5⟩
  · rintro ⟨w, hw⟩
    cases a with
    | md5 => simp [hw]
    | sha1 =>
      have h5 : spelled? Algorithm.md5.labelWord text = none :=
        spelled?_eq_none (by decide) (by decide) hw
      simp [hw, h5]

theorem kind?_eq_some_iff {text w rest : List Char} {k : HashKind} :
    Label.kind? text = some (k, w, rest) ↔ text = w ++ rest ∧ w.map fold = k.labelWords := by
  rw [← spelled?_eq_some_iff]
  unfold Label.kind?
  constructor
  · intro h
    rcases hs : spelled? HashKind.stored.labelWords text with _ | p
    · rw [hs] at h
      obtain ⟨p, hc, h'⟩ := Option.map_eq_some_iff.mp h
      cases h'
      exact hc
    · simp only [hs, Option.map_some] at h
      cases h
      exact hs
  · intro hw
    cases k with
    | stored => simp [hw]
    | computed =>
      have hs : spelled? HashKind.stored.labelWords text = none :=
        spelled?_eq_none (by decide) (by decide) hw
      simp [hw, hs]

theorem dropWhile_isBlank_word {w word rest : List Char} {d : Char} (h : w.map fold = d :: word)
    (hd : isBlank d = false) : (w ++ rest).dropWhile isBlank = w ++ rest := by
  obtain ⟨c, w, rfl, rfl, -⟩ := List.map_eq_cons_iff.mp h
  have hc : ¬ isBlank c = true := by
    intro hc
    rcases isBlank_iff.mp hc with rfl | rfl <;> exact absurd hd (by decide)
  rw [List.cons_append, List.dropWhile_cons_of_neg hc]

theorem fold_of_ascii {c : Char} (h : c.toNat < 128) : fold c = c.toLower := by
  unfold fold
  rw [if_neg, if_neg]
  · rintro rfl
    exact absurd h (by decide)
  · rintro rfl
    exact absurd h (by decide)

theorem newline_notMem_of_map_fold {w word : List Char} (h : w.map fold = word)
    (hn : '\n' ∉ word) : '\n' ∉ w :=
  fun hw => hn (h ▸ List.mem_map.mpr ⟨'\n', hw, by decide⟩)

/-! ### Blanks, the colon and the value -/

theorem dropWhile_isBlank_append {s rest : List Char} (hs : ∀ c ∈ s, isBlank c = true)
    (hr : rest.dropWhile isBlank = rest) : (s ++ rest).dropWhile isBlank = rest := by
  rw [List.dropWhile_append_of_pos hs, hr]

theorem blanks?_append {s rest : List Char} (hs : ∀ c ∈ s, isBlank c = true) (hne : s ≠ [])
    (hr : rest.dropWhile isBlank = rest) : blanks? (s ++ rest) = some rest := by
  obtain ⟨c, s, rfl⟩ := List.exists_cons_of_ne_nil hne
  obtain ⟨hc, hs⟩ := List.forall_mem_cons.mp hs
  rw [List.cons_append, blanks?, if_pos hc, dropWhile_isBlank_append hs hr]

theorem exists_blanks_of_blanks? {text rest : List Char} (h : blanks? text = some rest) :
    ∃ s, text = s ++ rest ∧ (∀ c ∈ s, isBlank c = true) ∧ s ≠ [] := by
  rcases text with _ | ⟨c, text⟩
  · cases h
  · simp only [blanks?, Option.ite_none_right_eq_some, Option.some.injEq] at h
    obtain ⟨hc, rfl⟩ := h
    refine ⟨c :: text.takeWhile isBlank, by simp, ?_, List.cons_ne_nil _ _⟩
    exact List.forall_mem_cons.mpr ⟨hc, fun d hd => List.mem_takeWhile_imp hd⟩

theorem colon?_eq_some_iff {text rest : List Char} :
    colon? text = some rest ↔ text = ':' :: rest := by
  unfold colon?
  split <;> simp_all

theorem value?_eq_some_iff {text v : List Char} :
    Label.value? text = some v ↔ v ≠ [] ∧ (∀ c ∈ v, isWhitespace c = false) ∧
      ∃ t, text = v ++ t ∧ ∀ c ∈ t, isBlank c = true ∨ c = '\r' := by
  simp only [Label.value?, Option.ite_none_right_eq_some, Option.some.injEq, Bool.and_eq_true,
    Bool.not_eq_true', List.isEmpty_eq_false_iff, List.all_eq_true, Bool.or_eq_true,
    decide_eq_true_eq]
  constructor
  · rintro ⟨⟨hne, ht⟩, rfl⟩
    refine ⟨hne, fun c hc => by simpa using List.mem_takeWhile_imp hc, _, ?_, ht⟩
    exact List.takeWhile_append_dropWhile.symm
  · rintro ⟨hne, hv, t, rfl, ht⟩
    -- A value is a whole run: what follows it starts with white space or is nothing.
    have hstop : t.takeWhile (fun c => !isWhitespace c) = [] ∧
        t.dropWhile (fun c => !isWhitespace c) = t := by
      rcases t with _ | ⟨c, t⟩
      · exact ⟨rfl, rfl⟩
      · simp [isWhitespace_of_trail (ht c List.mem_cons_self)]
    have hv' : ∀ c ∈ v, (!isWhitespace c) = true := fun c hc => by simp [hv c hc]
    have htake : (v ++ t).takeWhile (fun c => !isWhitespace c) = v := by
      rw [List.takeWhile_append_of_pos hv', hstop.1, List.append_nil]
    have hdrop : (v ++ t).dropWhile (fun c => !isWhitespace c) = t := by
      rw [List.dropWhile_append_of_pos hv', hstop.2]
    rw [htake, hdrop]
    exact ⟨⟨hne, ht⟩, rfl⟩

/-! ### Label lines -/

theorem forall_mem_of_all {p : Char → Prop} [DecidablePred p] {s : List Char}
    (h : s.all (fun c => p c) = true) : ∀ c ∈ s, p c :=
  fun c hc => of_decide_eq_true (List.all_eq_true.mp h c hc)

/-- **A label line in its parts,** as the grammar has them. -/
structure LabelLine where
  indent : List Char := []
  algorithm : Algorithm
  algorithmWord : List Char
  /-- The blanks between the algorithm and `hash`. -/
  beforeHash : List Char := [' ']
  hashWord : List Char := "hash".toList
  /-- The blanks between `hash` and the kind. -/
  afterHash : List Char := [' ']
  kind : HashKind
  kindWords : List Char
  beforeColon : List Char := []
  afterColon : List Char := [' ']
  value : List Char
  trail : List Char := []
  indent_blank : ∀ c ∈ indent, isBlank c = true := by
    exact forall_mem_of_all (by decide)
  algorithmWord_spells : algorithmWord.map fold = algorithm.labelWord := by decide
  beforeHash_blank : ∀ c ∈ beforeHash, isBlank c = true := by
    exact forall_mem_of_all (by decide)
  beforeHash_ne_nil : beforeHash ≠ [] := by decide
  hashWord_spells : hashWord.map fold = "hash".toList := by decide
  afterHash_blank : ∀ c ∈ afterHash, isBlank c = true := by
    exact forall_mem_of_all (by decide)
  afterHash_ne_nil : afterHash ≠ [] := by decide
  kindWords_spells : kindWords.map fold = kind.labelWords := by decide
  beforeColon_blank : ∀ c ∈ beforeColon, isBlank c = true := by
    exact forall_mem_of_all (by decide)
  afterColon_blank : ∀ c ∈ afterColon, isBlank c = true := by
    exact forall_mem_of_all (by decide)
  value_ne_nil : value ≠ [] := by decide
  value_solid : ∀ c ∈ value, isWhitespace c = false := by
    exact forall_mem_of_all (by decide)
  trail_blank : ∀ c ∈ trail, isBlank c = true ∨ c = '\r' := by
    exact forall_mem_of_all (by decide)

namespace LabelLine

variable (l : LabelLine)

/-- All that stands before the value. -/
def head : List Char :=
  l.indent ++ (l.algorithmWord ++ (l.beforeHash ++ (l.hashWord ++ (l.afterHash ++
    (l.kindWords ++ (l.beforeColon ++ ':' :: l.afterColon))))))

/-- The line. -/
def text : List Char := l.head ++ (l.value ++ l.trail)

/-- What the line says. -/
def label : Label where
  algorithm := l.algorithm
  kind := l.kind
  spelling := l.kindWords
  value := l.value

/-- The line with something else after its value. -/
def withTrail (t : List Char) (ht : ∀ c ∈ t, isBlank c = true ∨ c = '\r') : LabelLine :=
  { l with trail := t, trail_blank := ht }

theorem text_withTrail (t : List Char) (ht : ∀ c ∈ t, isBlank c = true ∨ c = '\r') :
    (l.withTrail t ht).text = l.head ++ (l.value ++ t) := rfl

theorem dropWhile_isBlank_value : (l.value ++ l.trail).dropWhile isBlank = l.value ++ l.trail := by
  obtain ⟨c, v, hv⟩ := List.exists_cons_of_ne_nil l.value_ne_nil
  have hc : ¬ isBlank c = true := fun hc => by
    have hs := l.value_solid c (by simp [hv])
    rw [isWhitespace_of_isBlank hc] at hs
    cases hs
  rw [hv, List.cons_append, List.dropWhile_cons_of_neg hc]

/-- What is put on a line is read off it. -/
theorem ofLine?_text : Label.ofLine? l.text = some l.label := by
  obtain ⟨d, w, halg, hd⟩ : ∃ d w, l.algorithm.labelWord = d :: w ∧ isBlank d = false := by
    cases l.algorithm <;> exact ⟨_, _, rfl, by decide⟩
  obtain ⟨e, u, hkind, he⟩ : ∃ e u, l.kind.labelWords = e :: u ∧ isBlank e = false := by
    cases l.kind <;> exact ⟨_, _, rfl, by decide⟩
  -- What is left of the line after each part of it is read.
  let r₆ := l.afterColon ++ (l.value ++ l.trail)
  let r₅ := l.beforeColon ++ ':' :: r₆
  let r₄ := l.kindWords ++ r₅
  let r₃ := l.afterHash ++ r₄
  let r₂ := l.hashWord ++ r₃
  let r₁ := l.beforeHash ++ r₂
  let r₀ := l.algorithmWord ++ r₁
  have htext : l.text = l.indent ++ r₀ := by
    simp [text, head, r₀, r₁, r₂, r₃, r₄, r₅, r₆]
  have h₀ : (l.indent ++ r₀).dropWhile isBlank = r₀ :=
    dropWhile_isBlank_append l.indent_blank
      (dropWhile_isBlank_word (l.algorithmWord_spells.trans halg) hd)
  have h₁ : Label.algorithm? r₀ = some (l.algorithm, r₁) :=
    algorithm?_eq_some_iff.mpr ⟨_, rfl, l.algorithmWord_spells⟩
  have h₂ : blanks? r₁ = some r₂ :=
    blanks?_append l.beforeHash_blank l.beforeHash_ne_nil
      (dropWhile_isBlank_word l.hashWord_spells (by decide))
  have h₃ : spelled? "hash".toList r₂ = some (l.hashWord, r₃) :=
    spelled?_eq_some_iff.mpr ⟨rfl, l.hashWord_spells⟩
  have h₄ : blanks? r₃ = some r₄ :=
    blanks?_append l.afterHash_blank l.afterHash_ne_nil
      (dropWhile_isBlank_word (l.kindWords_spells.trans hkind) he)
  have h₅ : Label.kind? r₄ = some (l.kind, l.kindWords, r₅) :=
    kind?_eq_some_iff.mpr ⟨rfl, l.kindWords_spells⟩
  have h₆ : r₅.dropWhile isBlank = ':' :: r₆ :=
    dropWhile_isBlank_append l.beforeColon_blank (List.dropWhile_cons_of_neg (by decide))
  have h₇ : r₆.dropWhile isBlank = l.value ++ l.trail :=
    dropWhile_isBlank_append l.afterColon_blank l.dropWhile_isBlank_value
  have h₈ : Label.value? (l.value ++ l.trail) = some l.value :=
    value?_eq_some_iff.mpr ⟨l.value_ne_nil, l.value_solid, _, rfl, l.trail_blank⟩
  simp only [Label.ofLine?, htext, h₀, h₁, h₂, h₃, h₄, h₅, h₆, h₇, h₈, colon?,
    Option.bind_eq_bind, Option.bind_some]
  rfl

theorem newline_notMem_text : '\n' ∉ l.text := by
  have hblank : ∀ s : List Char, (∀ c ∈ s, isBlank c = true) → '\n' ∉ s :=
    fun s hs hn => ne_newline_of_trail (Or.inl (hs _ hn)) rfl
  have halg : '\n' ∉ l.algorithm.labelWord := by cases l.algorithm <;> decide
  have hkind : '\n' ∉ l.kind.labelWords := by cases l.kind <;> decide
  have hvalue : '\n' ∉ l.value := fun hn => absurd (l.value_solid _ hn) (by decide)
  have htrail : '\n' ∉ l.trail := fun hn => ne_newline_of_trail (l.trail_blank _ hn) rfl
  simp only [text, head, List.mem_append, List.mem_cons, not_or]
  exact ⟨⟨hblank _ l.indent_blank, newline_notMem_of_map_fold l.algorithmWord_spells halg,
    hblank _ l.beforeHash_blank, newline_notMem_of_map_fold l.hashWord_spells (by decide),
    hblank _ l.afterHash_blank, newline_notMem_of_map_fold l.kindWords_spells hkind,
    hblank _ l.beforeColon_blank, by decide, hblank _ l.afterColon_blank⟩, hvalue, htrail⟩

/-- The label words are spelled with ASCII letters only. -/
def AsciiWords : Prop :=
  ∀ c ∈ l.algorithmWord ++ (l.hashWord ++ l.kindWords), c.toNat < 128

instance : Decidable l.AsciiWords := List.decidableBAll _ _

theorem slot_label (h : l.AsciiWords) : l.label.slot = l.kind := by
  have hlower : lower l.kindWords = l.kind.labelWords := by
    rw [← l.kindWords_spells, lower]
    refine List.map_congr_left fun c hc => (fold_of_ascii (h c ?_)).symm
    exact List.mem_append_right _ (List.mem_append_right _ hc)
  unfold Label.slot sameLetters
  rw [show l.label.spelling = l.kindWords from rfl, hlower]
  cases l.kind <;> decide

end LabelLine

theorem exists_labelLine_of_ofLine? {line : List Char} {l : Label}
    (h : Label.ofLine? line = some l) : ∃ d : LabelLine, d.text = line ∧ d.label = l := by
  simp only [Label.ofLine?, Option.bind_eq_bind, Option.bind_eq_some_iff] at h
  obtain ⟨⟨a, r₁⟩, h₁, r₂, h₂, ⟨hash, r₃⟩, h₃, r₄, h₄, ⟨k, w, r₅⟩, h₅, r₆, h₆, v, h₇, h₈⟩ := h
  cases h₈
  obtain ⟨aw, ha, haw⟩ := algorithm?_eq_some_iff.mp h₁
  obtain ⟨g, rfl, hg, hg'⟩ := exists_blanks_of_blanks? h₂
  obtain ⟨rfl, hhash⟩ := spelled?_eq_some_iff.mp h₃
  obtain ⟨g', rfl, hgb, hgb'⟩ := exists_blanks_of_blanks? h₄
  obtain ⟨rfl, hw⟩ := kind?_eq_some_iff.mp h₅
  have hr₅ := List.takeWhile_append_dropWhile (p := isBlank) (l := r₅)
  rw [colon?_eq_some_iff.mp h₆] at hr₅
  have hr₆ := List.takeWhile_append_dropWhile (p := isBlank) (l := r₆)
  obtain ⟨hv, hvs, t, ht, htb⟩ := value?_eq_some_iff.mp h₇
  rw [ht] at hr₆
  have hline := List.takeWhile_append_dropWhile (p := isBlank) (l := line)
  rw [ha] at hline
  let d : LabelLine :=
    { indent := line.takeWhile isBlank, algorithm := a, algorithmWord := aw, beforeHash := g
      hashWord := hash, afterHash := g', kind := k, kindWords := w
      beforeColon := r₅.takeWhile isBlank, afterColon := r₆.takeWhile isBlank
      value := v, trail := t
      indent_blank := fun c hc => List.mem_takeWhile_imp hc
      algorithmWord_spells := haw, beforeHash_blank := hg, beforeHash_ne_nil := hg'
      hashWord_spells := hhash, afterHash_blank := hgb, afterHash_ne_nil := hgb'
      kindWords_spells := hw
      beforeColon_blank := fun c hc => List.mem_takeWhile_imp hc
      afterColon_blank := fun c hc => List.mem_takeWhile_imp hc
      value_ne_nil := hv, value_solid := hvs, trail_blank := htb }
  refine ⟨d, ?_, rfl⟩
  rw [← hline, ← hr₅, ← hr₆]
  simp [LabelLine.text, LabelLine.head, d]

/-- **The reader accepts the grammar** and nothing else. -/
theorem ofLine?_eq_some_iff {line : List Char} {l : Label} :
    Label.ofLine? line = some l ↔ ∃ d : LabelLine, d.text = line ∧ d.label = l := by
  constructor
  · exact exists_labelLine_of_ofLine?
  · rintro ⟨d, rfl, rfl⟩
    exact d.ofLine?_text

theorem ofLine?_eq_none_iff {line : List Char} :
    Label.ofLine? line = none ↔ ∀ d : LabelLine, d.text ≠ line := by
  rw [Option.eq_none_iff_forall_ne_some]
  constructor
  · exact fun h d hd => h d.label (ofLine?_eq_some_iff.mpr ⟨d, hd, rfl⟩)
  · intro h l hl
    obtain ⟨d, hd, -⟩ := ofLine?_eq_some_iff.mp hl
    exact h d hd

theorem ofLine?_append_trail (line : List Char) {t : List Char}
    (ht : ∀ c ∈ t, isBlank c = true ∨ c = '\r') :
    Label.ofLine? (line ++ t) = Label.ofLine? line := by
  ext l
  rw [ofLine?_eq_some_iff, ofLine?_eq_some_iff]
  constructor
  · rintro ⟨d, hd, rfl⟩
    rw [LabelLine.text, ← List.append_assoc] at hd
    rcases List.append_eq_append_iff.mp hd with ⟨s, hs, htrail⟩ | ⟨s, hs, rfl⟩
    · have hs' : ∀ c ∈ s, isBlank c = true ∨ c = '\r' :=
        fun c hc => d.trail_blank c (htrail ▸ List.mem_append_left _ hc)
      refine ⟨d.withTrail s hs', ?_, rfl⟩
      rw [LabelLine.text_withTrail, ← List.append_assoc, hs]
    · -- The end of the value is no white space, so `t` has nothing of it.
      obtain rfl : s = [] := by
        by_contra hne
        have hlast := congrArg List.getLast? hs
        rw [List.getLast?_append, List.getLast?_append, List.getLast?_eq_some_getLast hne,
          List.getLast?_eq_some_getLast d.value_ne_nil] at hlast
        have hsolid := d.value_solid _ (List.getLast_mem d.value_ne_nil)
        rw [Option.some_or, Option.some_or, Option.some.injEq] at hlast
        rw [hlast, isWhitespace_of_trail
          (ht _ (List.mem_append_left _ (List.getLast_mem hne)))] at hsolid
        cases hsolid
      refine ⟨d.withTrail [] (by simp), ?_, rfl⟩
      rw [LabelLine.text_withTrail, List.append_nil, hs, List.append_nil]
  · rintro ⟨d, rfl, rfl⟩
    refine ⟨d.withTrail (d.trail ++ t) ?_, ?_, rfl⟩
    · exact fun c hc => (List.mem_append.mp hc).elim (d.trail_blank c) (ht c)
    · rw [LabelLine.text_withTrail, LabelLine.text, List.append_assoc, List.append_assoc]

/-! ### The label lines of a text -/

/-- **Cut at a newline,** a text has the label lines of its two parts. -/
theorem labels_append_newline (s t : List Char) :
    labels (s ++ '\n' :: t) = labels s ++ labels t := by
  unfold labels
  rw [List.splitOn_append_cons_self, List.filterMap_append]

theorem labels_of_newline_notMem {line : List Char} (h : '\n' ∉ line) :
    labels line = (Label.ofLine? line).toList := by
  unfold labels
  rw [List.splitOn_eq_singleton h]
  cases hl : Label.ofLine? line <;> simp [hl]

/-- Blanks and carriage returns at the end of a line make no difference to its label line. -/
theorem labels_append_trail {line : List Char} (hline : '\n' ∉ line) {t : List Char}
    (ht : ∀ c ∈ t, isBlank c = true ∨ c = '\r') : labels (line ++ t) = labels line := by
  have hn : '\n' ∉ line ++ t := by
    rw [List.mem_append, not_or]
    exact ⟨hline, fun h => ne_newline_of_trail (ht _ h) rfl⟩
  rw [labels_of_newline_notMem hn, labels_of_newline_notMem hline, ofLine?_append_trail line ht]

@[simp]
theorem labels_nil : labels [] = [] := by
  rw [labels_of_newline_notMem List.not_mem_nil]
  rfl

/-! ### Values -/

/-- A value that is the same in its normal form. -/
def IsNormal (v : List Char) : Prop :=
  v = "N/A".toList ∨ lower v = v ∧ v ≠ "n/a".toList

theorem Label.normalValue_of_isNormal {l : Label} (h : IsNormal l.value) :
    l.normalValue = l.value := by
  unfold Label.normalValue sameLetters
  rcases h with h | ⟨hl, hne⟩
  · rw [h]
    decide
  · have hlow : ¬ lower l.value = lower "n/a".toList := by
      rw [hl]
      exact hne
    rw [if_neg (by simpa using hlow), hl]

theorem firstValue_map_label {ls : List LabelLine} (hw : ∀ l ∈ ls, l.AsciiWords)
    (hn : ∀ l ∈ ls, IsNormal l.value) (a : Algorithm) (k : HashKind) :
    firstValue (ls.map LabelLine.label) a k =
      (ls.find? fun l => l.algorithm = a ∧ l.kind = k).map fun l => String.ofList l.value := by
  have hvalue : ∀ l ∈ ls, l.label.normalValue = l.value :=
    fun l hl => Label.normalValue_of_isNormal (hn l hl)
  have hfind : ls.find? ((fun l => l.algorithm = a && l.slot = k) ∘ LabelLine.label) =
      ls.find? fun l => l.algorithm = a ∧ l.kind = k := by
    refine List.find?_congr fun l hl => ?_
    rw [Function.comp_apply, l.slot_label (hw l hl), Bool.decide_and]
    rfl
  rw [firstValue, List.find?_map, Option.map_map, hfind]
  refine Option.map_congr fun l hl => ?_
  rw [Function.comp_apply, hvalue l (List.mem_of_find?_eq_some hl)]

end CrossCheck.Extract
