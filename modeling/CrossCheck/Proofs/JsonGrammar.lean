import CrossCheck.Json.Reader
import Mathlib.Data.List.Basic

/-! # The grammar of JSON texts

`Written j s` says that the text `s` is the value `j`, in any of the ways in which JSON lets it be
written: with white space between its parts, with every escape in its strings. As in all of this
project, numbers are whole.

The text that a value is printed as is one of these (`written_render`), whatever the value and
however deep it is indented. -/

namespace CrossCheck.Json

/-! ### The grammar -/

/-- White space between the parts of a value. -/
def Spaces (s : List Char) : Prop := ∀ c ∈ s, isSpace c = true

theorem spaces_nil : Spaces [] := List.forall_mem_nil _

/-- **Strings:** between quotes, `s` stands for the characters `cs`. -/
inductive Spelling : List Char → List Char → Prop
  | nil : Spelling [] []
  /-- A character that stands for itself. -/
  | plain {c : Char} {cs s : List Char} (hc : ' ' ≤ c) (hquote : c ≠ '"') (hslash : c ≠ '\\')
    (h : Spelling cs s) : Spelling (c :: cs) (c :: s)
  /-- A backslash and a letter. -/
  | short {letter c : Char} {cs s : List Char} (hc : shortEscape? letter = some c)
    (h : Spelling cs s) : Spelling (c :: cs) ('\\' :: letter :: s)
  /-- The code of a character in hexadecimal. -/
  | code {d₁ d₂ d₃ d₄ c : Char} {n : Nat} {cs s : List Char}
    (hn : unit? [d₁, d₂, d₃, d₄] = some n) (hc : single? n = some c) (h : Spelling cs s) :
    Spelling (c :: cs) ('\\' :: 'u' :: d₁ :: d₂ :: d₃ :: d₄ :: s)
  /-- A character by two surrogates. -/
  | surrogates {d₁ d₂ d₃ d₄ e₁ e₂ e₃ e₄ c : Char} {m n : Nat} {cs s : List Char}
    (hm : unit? [d₁, d₂, d₃, d₄] = some m) (hn : unit? [e₁, e₂, e₃, e₄] = some n)
    (hc : pair? m n = some c) (h : Spelling cs s) :
    Spelling (c :: cs)
      ('\\' :: 'u' :: d₁ :: d₂ :: d₃ :: d₄ :: '\\' :: 'u' :: e₁ :: e₂ :: e₃ :: e₄ :: s)

/-- **Digits** of the number `n`, without a zero that could be left out. -/
structure Numeral (n : Nat) (s : List Char) : Prop where
  ne_nil : s ≠ []
  digits : ∀ c ∈ s, c.isDigit = true
  leading_zero : s.head? = some '0' → s = ['0']
  value : Nat.ofDigitChars 10 s 0 = n

/-- **Numbers.** -/
inductive Whole : Int → List Char → Prop
  | natural {n : Nat} {s : List Char} (h : Numeral n s) : Whole n s
  | negative {n : Nat} {s : List Char} (h : Numeral n s) : Whole (-n) ('-' :: s)

mutual

/-- **Values:** the text `s`, without white space around it, is the value `j`. -/
inductive Written : Json → List Char → Prop
  | null : Written null "null".toList
  | bool (b : Bool) : Written (bool b) (if b then "true" else "false").toList
  | number {n : Int} {s : List Char} (h : Whole n s) : Written (number n) s
  | text {cs s : List Char} (h : Spelling cs s) :
    Written (text (.ofList cs)) ('"' :: (s ++ ['"']))
  | emptyList {v : List Char} (hv : Spaces v) : Written (list []) ('[' :: (v ++ [']']))
  | list {js : List Json} {s : List Char} (h : WrittenItems js s) :
    Written (list js) ('[' :: (s ++ [']']))
  | emptyObject {v : List Char} (hv : Spaces v) : Written (object []) ('{' :: (v ++ ['}']))
  | object {fs : List (String × Json)} {s : List Char} (h : WrittenFields fs s) :
    Written (object fs) ('{' :: (s ++ ['}']))

/-- **Items,** at least one, with commas between them. -/
inductive WrittenItems : List Json → List Char → Prop
  | last {j : Json} {v s w : List Char} (hv : Spaces v) (h : Written j s) (hw : Spaces w) :
    WrittenItems [j] (v ++ (s ++ w))
  | cons {j : Json} {js : List Json} {v s w t : List Char} (hv : Spaces v) (h : Written j s)
    (hw : Spaces w) (ht : WrittenItems js t) :
    WrittenItems (j :: js) (v ++ (s ++ (w ++ ',' :: t)))

/-- **Fields,** at least one, with commas between them. -/
inductive WrittenFields : List (String × Json) → List Char → Prop
  | last {name : List Char} {j : Json} {v n w x s y : List Char} (hv : Spaces v)
    (hn : Spelling name n) (hw : Spaces w) (hx : Spaces x) (h : Written j s) (hy : Spaces y) :
    WrittenFields [(.ofList name, j)] (v ++ '"' :: (n ++ '"' :: (w ++ ':' :: (x ++ (s ++ y)))))
  | cons {name : List Char} {j : Json} {fs : List (String × Json)} {v n w x s y t : List Char}
    (hv : Spaces v) (hn : Spelling name n) (hw : Spaces w) (hx : Spaces x) (h : Written j s)
    (hy : Spaces y) (ht : WrittenFields fs t) :
    WrittenFields ((.ofList name, j) :: fs)
      (v ++ '"' :: (n ++ '"' :: (w ++ ':' :: (x ++ (s ++ (y ++ ',' :: t))))))

end

/-! ### Strings as they are printed -/

theorem unit?_control : ∀ n < 32,
    unit? ['0', '0', Text.hexDigit (n / 16), Text.hexDigit (n % 16)] = some n ∧
      single? n = some (.ofNat n) := by
  decide

theorem Spelling.escape_append (c : Char) {cs s : List Char} (h : Spelling cs s) :
    Spelling (c :: cs) (escape c ++ s) := by
  unfold escape
  split_ifs with hquote hslash hn hr ht hb hf hcontrol
  · subst hquote; exact .short rfl h
  · subst hslash; exact .short rfl h
  · subst hn; exact .short rfl h
  · subst hr; exact .short rfl h
  · subst ht; exact .short rfl h
  · subst hb; exact .short rfl h
  · subst hf; exact .short rfl h
  · have hc : c.toNat < 32 := hcontrol
    obtain ⟨hu, hs⟩ := unit?_control c.toNat hc
    rw [Char.ofNat_toNat] at hs
    exact .code hu hs h
  · exact .plain (Char.not_lt.mp hcontrol) hquote hslash h

theorem spelling_escape (cs : List Char) : Spelling cs (cs.flatMap escape) := by
  induction cs with
  | nil => exact .nil
  | cons c cs ih => exact ih.escape_append c

/-! ### Numbers as they are printed -/

theorem numeral_toDigits (n : Nat) : Numeral n (Nat.toDigits 10 n) where
  ne_nil := Nat.toDigits_ne_nil
  digits _ hc := Nat.isDigit_of_mem_toDigits (by decide) (by decide) hc
  leading_zero := by
    induction n using Nat.strongRecOn with
    | ind n ih =>
      rw [Nat.toDigits_eq_if (by decide)]
      split_ifs with hn
      · rw [List.head?_singleton, Option.some.injEq]
        exact fun h => by rw [h]
      · -- The digits before the last one are those of a number that is not zero.
        intro h
        rw [List.head?_append_of_ne_nil _ Nat.toDigits_ne_nil] at h
        have hv := congrArg (Nat.ofDigitChars 10 · 0) (ih (n / 10) (by omega) h)
        simp only [Nat.ofDigitChars_ten_toDigits] at hv
        rw [show Nat.ofDigitChars 10 ['0'] 0 = 0 from rfl] at hv
        omega
  value := Nat.ofDigitChars_ten_toDigits

theorem whole_repr (n : Int) : Whole n n.repr.toList := by
  rw [Int.repr_eq_if]
  split_ifs with h
  · have hw := Whole.natural (numeral_toDigits n.toNat)
    rw [Int.toNat_of_nonneg h] at hw
    simpa [Nat.repr_eq_ofList_toDigits] using hw
  · have hw := Whole.negative (numeral_toDigits (-n).toNat)
    rw [Int.toNat_of_nonneg (by omega), Int.neg_neg] at hw
    simpa [Nat.repr_eq_ofList_toDigits] using hw

/-! ### Values as they are printed -/

theorem spaces_newline (level : Nat) : Spaces (newline level) := by
  intro c hc
  rcases List.mem_cons.mp hc with rfl | hc
  · rfl
  · rw [(List.mem_replicate.mp hc).2]
    rfl

mutual

theorem written_render (level : Nat) : (j : Json) → Written j (render level j)
  | null => by
    rw [render]
    exact .null
  | bool b => by
    rw [render]
    exact .bool b
  | number n => by
    rw [render]
    exact .number (whole_repr n)
  | text s => by
    have h := Written.text (spelling_escape s.toList)
    rw [String.ofList_toList] at h
    rwa [render]
  | list [] => by
    rw [render]
    exact .emptyList spaces_nil
  | list (j :: js) => by
    have h := writtenItems_render (level + 1) (spaces_newline (level + 1))
      (written_render (level + 1) j) (spaces_newline level) js
    rw [render]
    simpa using Written.list h
  | object [] => by
    rw [render]
    exact .emptyObject spaces_nil
  | object ((name, j) :: fs) => by
    have h := writtenFields_render (level + 1) name (spaces_newline (level + 1))
      (written_render (level + 1) j) (spaces_newline level) fs
    rw [render]
    simpa [quote] using Written.object h

theorem writtenItems_render (level : Nat) {j : Json} {v s w : List Char} (hv : Spaces v)
    (h : Written j s) (hw : Spaces w) :
    (js : List Json) → WrittenItems (j :: js) (v ++ (s ++ (renderItems level js ++ w)))
  | [] => by
    rw [renderItems]
    exact .last hv h hw
  | j' :: js => by
    have ht := writtenItems_render level (spaces_newline level) (written_render level j') hw js
    rw [renderItems]
    simpa using WrittenItems.cons hv h spaces_nil ht

theorem writtenFields_render (level : Nat) (name : String) {j : Json} {v s w : List Char}
    (hv : Spaces v) (h : Written j s) (hw : Spaces w) : (fs : List (String × Json)) →
    WrittenFields ((name, j) :: fs)
      (v ++ (quote name ++ (':' :: ' ' :: (s ++ (renderFields level fs ++ w)))))
  | [] => by
    have hf := WrittenFields.last hv (spelling_escape name.toList) spaces_nil
      (x := [' ']) (by simp [Spaces, isSpace]) h hw
    rw [renderFields]
    simpa [quote] using hf
  | (name', j') :: fs => by
    have ht := writtenFields_render level name' (spaces_newline level) (written_render level j')
      hw fs
    have hf := WrittenFields.cons hv (spelling_escape name.toList) spaces_nil
      (x := [' ']) (by simp [Spaces, isSpace]) h spaces_nil ht
    rw [renderFields]
    simpa [quote] using hf

end

end CrossCheck.Json
