import CrossCheck.Proofs.JsonGrammar
import Mathlib.Data.List.DropRight
import Mathlib.Data.List.TakeWhile

/-! # JSON texts are read back

The reader accepts every text of the grammar and gives the value that the text is written for
(`parse?_of_written`). Each reader is followed from the front of a text that starts with what it is
to read: strings by their spellings, numbers by their digits, and values, items and fields by
induction on the fuel, of which the length of the text is enough.

So a text is written for one value at most (`Written.unique`), which for the text that a value is
printed as is that value (`written_render_iff`). -/

namespace CrossCheck.Json

/-! ### Strings -/

theorem single?_of_pair? {m n : Nat} {c : Char} (h : pair? m n = some c) : single? m = none := by
  simp only [pair?, Option.ite_none_right_eq_some] at h
  obtain ⟨⟨h₁, h₂, -⟩, -⟩ := h
  have hm : ¬ m.isValidChar := by
    rintro (hm | ⟨hm, -⟩) <;> omega
  exact if_neg hm

theorem text?_plain {c : Char} (hc : ' ' ≤ c) (hquote : c ≠ '"') (hslash : c ≠ '\\')
    (s : List Char) : text? (c :: s) = (text? s).map fun x => (c :: x.1, x.2) := by
  have hlt : ¬ c < ' ' := Char.not_lt.mpr hc
  rw [text?]
  · simp only [hlt, hslash, decide_false, Bool.or_self, Bool.false_eq_true, if_false]
    rcases text? s <;> rfl
  all_goals simp_all

theorem text?_short {letter c : Char} (h : shortEscape? letter = some c) (s : List Char) :
    text? ('\\' :: letter :: s) = (text? s).map fun x => (c :: x.1, x.2) := by
  have hu : letter ≠ 'u' := by
    rintro rfl
    cases h
  rw [text?]
  · simp only [h, Option.bind_eq_bind, Option.bind_some]
    rcases text? s <;> rfl
  · exact fun _ _ _ _ _ hl _ => hu hl

theorem text?_code {a b d e c : Char} {n : Nat} (hn : unit? [a, b, d, e] = some n)
    (hc : single? n = some c) (s : List Char) :
    text? ('\\' :: 'u' :: a :: b :: d :: e :: s) = (text? s).map fun x => (c :: x.1, x.2) := by
  rw [text?]
  simp only [hn, hc, Option.bind_eq_bind, Option.bind_some]
  rcases text? s <;> rfl

theorem text?_of_spelling {cs s : List Char} (h : Spelling cs s) (rest : List Char) :
    text? (s ++ '"' :: rest) = some (cs, rest) := by
  induction h with
  | nil => simp [text?]
  | plain hc hquote hslash _ ih => rw [List.cons_append, text?_plain hc hquote hslash, ih]; rfl
  | short hc _ ih => rw [List.cons_append, List.cons_append, text?_short hc, ih]; rfl
  | code hn hc _ ih => simp only [List.cons_append, text?_code hn hc, ih, Option.map_some]
  | surrogates hm hn hc _ ih =>
    simp only [List.cons_append]
    rw [text?]
    simp [hm, hn, hc, single?_of_pair? hc, ih]

/-! ### Numbers -/

/-- The text does not go on with a digit. -/
def EndsNumber (rest : List Char) : Prop := ∀ c ∈ rest.head?, c.isDigit = false

theorem natural?_of_numeral {n : Nat} {s rest : List Char} (h : Numeral n s)
    (hr : EndsNumber rest) : natural? (s ++ rest) = some (n, rest) := by
  have hstop : rest.takeWhile Char.isDigit = [] ∧ rest.dropWhile Char.isDigit = rest := by
    rcases rest with _ | ⟨c, rest⟩
    · exact ⟨rfl, rfl⟩
    · simp [hr c rfl]
  have htake : (s ++ rest).takeWhile Char.isDigit = s := by
    rw [List.takeWhile_append_of_pos h.digits, hstop.1, List.append_nil]
  have hdrop : (s ++ rest).dropWhile Char.isDigit = rest := by
    rw [List.dropWhile_append_of_pos h.digits, hstop.2]
  have hvalue : s.foldl (fun v c => 10 * v + Text.hexValue c) 0 = n := by
    rw [← h.value, Nat.ofDigitChars_eq_foldl]
    refine List.foldl_ext _ _ _ fun v c hc => ?_
    rw [Text.hexValue, if_pos (h.digits c hc)]
  have hzero : ¬ (s = [] ∨ s.head? = some '0' ∧ s.length > 1) := by
    rintro (hs | ⟨hs, hl⟩)
    · exact h.ne_nil hs
    · rw [h.leading_zero hs] at hl
      exact absurd hl (by decide)
  unfold natural?
  rw [htake, hdrop, if_neg hzero, hvalue]

theorem Whole.exists_cons {n : Int} {s : List Char} (h : Whole n s) :
    ∃ c t, s = c :: t ∧ (c = '-' ∨ c.isDigit = true) := by
  cases h with
  | natural h =>
    obtain ⟨c, t, rfl⟩ := List.exists_cons_of_ne_nil h.ne_nil
    exact ⟨c, t, rfl, Or.inr (h.digits c List.mem_cons_self)⟩
  | negative h => exact ⟨_, _, rfl, Or.inl rfl⟩

theorem integer?_of_whole {n : Int} {s rest : List Char} (h : Whole n s)
    (hr : EndsNumber rest) : integer? (s ++ rest) = some (n, rest) := by
  cases h with
  | @natural n _ h =>
    have hread := natural?_of_numeral h hr
    obtain ⟨c, t, rfl⟩ := List.exists_cons_of_ne_nil h.ne_nil
    have hc : c ≠ '-' := by
      rintro rfl
      exact absurd (h.digits '-' List.mem_cons_self) (by decide)
    rw [List.cons_append] at hread ⊢
    rw [integer?, hread]
    · rfl
    · exact fun _ hs => hc (List.cons.inj hs).1
  | negative h =>
    rw [List.cons_append, integer?, natural?_of_numeral h hr]
    rfl

/-! ### White space -/

theorem skipSpace_append {v : List Char} (hv : Spaces v) {c : Char} (hc : isSpace c = false)
    (t : List Char) : skipSpace (v ++ c :: t) = c :: t := by
  unfold skipSpace
  rw [List.dropWhile_append_of_pos hv, List.dropWhile_cons_of_neg (by simp [hc])]

theorem skipSpace_of_spaces {v : List Char} (hv : Spaces v) : skipSpace v = [] :=
  List.dropWhile_eq_nil_iff.mpr hv

theorem skipSpace_skipSpace (s : List Char) : skipSpace (skipSpace s) = skipSpace s :=
  List.dropWhile_idempotent isSpace s

theorem endsNumber_append {v : List Char} (hv : Spaces v) {rest : List Char}
    (hr : EndsNumber rest) : EndsNumber (v ++ rest) := by
  rcases v with _ | ⟨c, v⟩
  · exact hr
  · intro d hd
    obtain rfl : c = d := by simpa using hd
    have hc := hv c List.mem_cons_self
    simp only [isSpace, Bool.or_eq_true, decide_eq_true_eq] at hc
    rcases hc with ((rfl | rfl) | rfl) | rfl <;> decide

theorem endsNumber_cons {c : Char} (hc : c.isDigit = false) (t : List Char) :
    EndsNumber (c :: t) := by
  rintro d ⟨⟩
  exact hc

/-- White space before a value is skipped anyway. -/
theorem value?_skipSpace (fuel : Nat) (s : List Char) :
    value? fuel (skipSpace s) = value? fuel s := by
  cases fuel with
  | zero => rw [value?, value?]
  | succ fuel => rw [value?, value?, skipSpace_skipSpace]

theorem items?_skipSpace (fuel : Nat) (s : List Char) :
    items? fuel (skipSpace s) = items? fuel s := by
  cases fuel with
  | zero => rw [items?, items?]
  | succ fuel => rw [items?, items?, value?_skipSpace]

theorem fields?_skipSpace (fuel : Nat) (s : List Char) :
    fields? fuel (skipSpace s) = fields? fuel s := by
  cases fuel with
  | zero => rw [fields?, fields?]
  | succ fuel => rw [fields?, fields?, skipSpace_skipSpace]

/-! ### Values -/

/-- A value starts with a character that neither is skipped nor closes a list. -/
theorem Written.exists_cons {j : Json} {s : List Char} (h : Written j s) :
    ∃ c t, s = c :: t ∧ isSpace c = false ∧ c ≠ ']' := by
  cases h with
  | bool b => cases b <;> exact ⟨_, _, rfl, by decide, by decide⟩
  | number h =>
    obtain ⟨c, t, rfl, hc⟩ := h.exists_cons
    refine ⟨c, t, rfl, ?_, ?_⟩
    · by_contra hs
      simp only [isSpace, Bool.not_eq_false, Bool.or_eq_true, decide_eq_true_eq] at hs
      rcases hs with ((rfl | rfl) | rfl) | rfl <;> exact absurd hc (by decide)
    · rintro rfl
      exact absurd hc (by decide)
  | _ => exact ⟨_, _, rfl, by decide, by decide⟩

theorem WrittenItems.exists_cons {js : List Json} {t : List Char} (h : WrittenItems js t) :
    ∃ v c u, t = v ++ c :: u ∧ Spaces v ∧ isSpace c = false ∧ c ≠ ']' := by
  cases h with
  | last hv h hw =>
    obtain ⟨c, u, rfl, hc⟩ := h.exists_cons
    exact ⟨_, c, _, rfl, hv, hc⟩
  | cons hv h hw ht =>
    obtain ⟨c, u, rfl, hc⟩ := h.exists_cons
    exact ⟨_, c, _, rfl, hv, hc⟩

theorem WrittenFields.exists_quote {fs : List (String × Json)} {t : List Char}
    (h : WrittenFields fs t) : ∃ v u, t = v ++ '"' :: u ∧ Spaces v := by
  cases h with
  | last hv => exact ⟨_, _, rfl, hv⟩
  | cons hv => exact ⟨_, _, rfl, hv⟩

theorem literal?_append (word rest : List Char) : literal? word (word ++ rest) = some rest := by
  have h : word.isPrefixOf (word ++ rest) = true :=
    List.isPrefixOf_iff_prefix.mpr (List.prefix_append word rest)
  rw [literal?, if_pos h, List.drop_left]

theorem scalar?_of_whole {n : Int} {s rest : List Char} (h : Whole n s)
    (hr : EndsNumber rest) : scalar? (s ++ rest) = some (number n, rest) := by
  have hread := integer?_of_whole h hr
  obtain ⟨c, t, rfl, hc⟩ := h.exists_cons
  rw [List.cons_append] at hread ⊢
  rw [scalar?, hread]
  · rfl
  all_goals
    rintro _ ⟨⟩
    exact absurd hc (by decide)

section Steps
variable (fuel : Nat) {v : List Char} (hv : Spaces v)
include hv

theorem value?_of_scalar {c : Char} (hc : isSpace c = false) (hlist : c ≠ '[')
    (hobject : c ≠ '{') (t : List Char) :
    value? (fuel + 1) (v ++ c :: t) = scalar? (c :: t) := by
  rw [value?, skipSpace_append hv hc]
  split
  · rename_i h
    exact absurd (List.cons.inj h).1 hlist
  · rename_i h
    exact absurd (List.cons.inj h).1 hobject
  · rfl

theorem value?_of_emptyList {w : List Char} (hw : Spaces w) (rest : List Char) :
    value? (fuel + 1) (v ++ '[' :: (w ++ ']' :: rest)) = some (list [], rest) := by
  rw [value?, skipSpace_append hv (by decide)]
  simp only [skipSpace_append hw (show isSpace ']' = false by decide)]

theorem value?_of_emptyObject {w : List Char} (hw : Spaces w) (rest : List Char) :
    value? (fuel + 1) (v ++ '{' :: (w ++ '}' :: rest)) = some (object [], rest) := by
  rw [value?, skipSpace_append hv (by decide)]
  simp only [skipSpace_append hw (show isSpace '}' = false by decide)]

theorem value?_of_items {js : List Json} {t : List Char} (h : WrittenItems js t)
    (rest : List Char) : value? (fuel + 1) (v ++ '[' :: (t ++ rest)) =
      (items? fuel (t ++ rest)).map fun x => (list x.1, x.2) := by
  obtain ⟨w, c, u, rfl, hw, hc, hclose⟩ := h.exists_cons
  rw [← items?_skipSpace, value?, skipSpace_append hv (by decide), List.append_assoc,
    List.cons_append]
  simp only [skipSpace_append hw hc]
  split
  · rename_i h
    exact absurd (List.cons.inj h).1 hclose
  · rfl

theorem value?_of_fields {fs : List (String × Json)} {t : List Char} (h : WrittenFields fs t)
    (rest : List Char) : value? (fuel + 1) (v ++ '{' :: (t ++ rest)) =
      (fields? fuel (t ++ rest)).map fun x => (object x.1, x.2) := by
  obtain ⟨w, u, rfl, hw⟩ := h.exists_quote
  rw [← fields?_skipSpace, value?, skipSpace_append hv (by decide), List.append_assoc,
    List.cons_append]
  simp only [skipSpace_append hw (show isSpace '"' = false by decide)]
  rfl

end Steps

/-! The parts of a value, once the first of them has been read. -/

section Parts
variable {fuel : Nat} {j : Json} {t s : List Char} (h : value? fuel t = some (j, s))
include h

theorem items?_of_last {rest : List Char} (hs : skipSpace s = ']' :: rest) :
    items? (fuel + 1) t = some ([j], rest) := by
  rw [items?, h]
  simp [hs]

theorem items?_of_comma {u : List Char} (hs : skipSpace s = ',' :: u) :
    items? (fuel + 1) t = (items? fuel u).map fun x => (j :: x.1, x.2) := by
  rw [items?, h]
  simp only [hs, Option.bind_eq_bind, Option.bind_some]
  rcases items? fuel u <;> rfl

variable {v name n w : List Char} (hv : Spaces v) (hn : Spelling name n) (hw : Spaces w)
include hv hn hw

theorem fields?_of_last {rest : List Char} (hs : skipSpace s = '}' :: rest) :
    fields? (fuel + 1) (v ++ '"' :: (n ++ '"' :: (w ++ ':' :: t))) =
      some ([(.ofList name, j)], rest) := by
  have hcolon : literal? [':'] (':' :: t) = some t := literal?_append [':'] t
  rw [fields?, skipSpace_append hv (by decide)]
  simp [text?_of_spelling hn, skipSpace_append hw (show isSpace ':' = false by decide), hcolon, h,
    hs]

theorem fields?_of_comma {u : List Char} (hs : skipSpace s = ',' :: u) :
    fields? (fuel + 1) (v ++ '"' :: (n ++ '"' :: (w ++ ':' :: t))) =
      (fields? fuel u).map fun x => ((.ofList name, j) :: x.1, x.2) := by
  have hcolon : literal? [':'] (':' :: t) = some t := literal?_append [':'] t
  rw [fields?, skipSpace_append hv (by decide)]
  simp only [text?_of_spelling hn, skipSpace_append hw (show isSpace ':' = false by decide),
    hcolon, h, hs, Option.bind_eq_bind, Option.bind_some]
  rcases fields? fuel u <;> rfl

end Parts

/-! The three readers, by induction on the fuel: each of them hands one less to the readers of the
parts, which are shorter by as much. -/

mutual

/-- **A value is read** off the front of a text, after white space. -/
theorem value?_of_written {j : Json} {s v : List Char} (h : Written j s) (fuel : Nat)
    (rest : List Char) (hf : s.length ≤ fuel) (hv : Spaces v) (hr : EndsNumber rest) :
    value? fuel (v ++ (s ++ rest)) = some (j, rest) := by
  obtain ⟨c, t, hs, hspace, -⟩ := h.exists_cons
  obtain ⟨fuel, rfl⟩ : ∃ n, fuel = n + 1 := ⟨fuel - 1, by simp [hs] at hf; omega⟩
  cases h with
  | null => exact value?_of_scalar fuel hv (by decide) (by decide) (by decide) _
  | bool b => cases b <;> exact value?_of_scalar fuel hv (by decide) (by decide) (by decide) _
  | number h =>
    have hread := scalar?_of_whole h hr
    obtain ⟨d, u, hd, hc⟩ := h.exists_cons
    obtain ⟨rfl, rfl⟩ := List.cons.inj (hs.symm.trans hd)
    subst hs
    have hopen : c ≠ '[' ∧ c ≠ '{' := by
      constructor <;> rintro rfl <;> exact absurd hc (by decide)
    rw [← hread]
    exact value?_of_scalar fuel hv hspace hopen.1 hopen.2 _
  | text h =>
    rw [List.cons_append, List.append_assoc,
      value?_of_scalar fuel hv (by decide) (by decide) (by decide), scalar?,
      List.singleton_append, text?_of_spelling h]
    rfl
  | emptyList hw => simpa using value?_of_emptyList fuel hv hw rest
  | @list js t h =>
    have hread := items?_of_written h fuel rest (by simp at hf; omega)
    simp [value?_of_items fuel hv h, hread]
  | emptyObject hw => simpa using value?_of_emptyObject fuel hv hw rest
  | @object fs t h =>
    have hread := fields?_of_written h fuel rest (by simp at hf; omega)
    simp [value?_of_fields fuel hv h, hread]
termination_by fuel

/-- **Items are read** up to the bracket. -/
theorem items?_of_written {js : List Json} {t : List Char} (h : WrittenItems js t) (fuel : Nat)
    (rest : List Char) (hf : t.length < fuel) :
    items? fuel (t ++ ']' :: rest) = some (js, rest) := by
  obtain ⟨fuel, rfl⟩ : ∃ n, fuel = n + 1 := ⟨fuel - 1, by omega⟩
  cases h with
  | @last j v s w hv h hw =>
    have hread := value?_of_written h fuel (w ++ ']' :: rest)
      (by simp at hf; omega) hv (endsNumber_append hw (endsNumber_cons (by decide) rest))
    simpa using items?_of_last hread (skipSpace_append hw (by decide) rest)
  | @cons j js v s w t hv h hw ht =>
    have hread := value?_of_written h fuel (w ++ ',' :: (t ++ ']' :: rest))
      (by simp at hf; omega) hv (endsNumber_append hw (endsNumber_cons (by decide) _))
    have htail := items?_of_written ht fuel rest (by simp at hf; omega)
    simpa [htail] using items?_of_comma hread (skipSpace_append hw (by decide) _)
termination_by fuel

/-- **Fields are read** up to the brace. -/
theorem fields?_of_written {fs : List (String × Json)} {t : List Char} (h : WrittenFields fs t)
    (fuel : Nat) (rest : List Char) (hf : t.length < fuel) :
    fields? fuel (t ++ '}' :: rest) = some (fs, rest) := by
  obtain ⟨fuel, rfl⟩ : ∃ n, fuel = n + 1 := ⟨fuel - 1, by omega⟩
  cases h with
  | @last name j v n w x s y hv hn hw hx h hy =>
    have hread := value?_of_written h fuel (y ++ '}' :: rest)
      (by simp at hf; omega) hx (endsNumber_append hy (endsNumber_cons (by decide) rest))
    simpa using fields?_of_last hread hv hn hw (skipSpace_append hy (by decide) rest)
  | @cons name j fs v n w x s y t hv hn hw hx h hy ht =>
    have hread := value?_of_written h fuel (y ++ ',' :: (t ++ '}' :: rest))
      (by simp at hf; omega) hx (endsNumber_append hy (endsNumber_cons (by decide) _))
    have htail := fields?_of_written ht fuel rest (by simp at hf; omega)
    simpa [htail] using fields?_of_comma hread hv hn hw (skipSpace_append hy (by decide) _)
termination_by fuel

end

/-! ### Whole texts -/

/-- **The reader accepts the grammar:** it gives the value that a text is written for. -/
theorem parse?_of_written {j : Json} {v s w : List Char} (hv : Spaces v) (h : Written j s)
    (hw : Spaces w) : parse? (v ++ (s ++ w)) = some j := by
  have hr : EndsNumber w := by
    simpa using endsNumber_append hw (show EndsNumber [] by simp [EndsNumber])
  rw [parse?, value?_of_written h _ w (by simp; omega) hv hr]
  simp [skipSpace_of_spaces hw]

theorem Written.unique {j k : Json} {s : List Char} (h : Written j s) (h' : Written k s) :
    j = k := by
  have hj := parse?_of_written spaces_nil h spaces_nil
  have hk := parse?_of_written spaces_nil h' spaces_nil
  exact Option.some.inj (hj.symm.trans hk)

/-- The text that a value is printed as is written for that value and no other. -/
theorem written_render_iff (level : Nat) (j k : Json) : Written k (render level j) ↔ k = j :=
  ⟨fun h => h.unique (written_render level j), fun h => h ▸ written_render level j⟩

end CrossCheck.Json
