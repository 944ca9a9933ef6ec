import CrossCheck.Settings.Document

/-! # Documents statement by statement

A text whose front is a statement has that statement and those of what is left
(`statementsFrom?_cons`). An entry is put together from a key, an equals sign, a value and the end
of a line (`statement?_of_entry`). With a key without quotes and a literal string it is read as it
is written (`parse?_of_key`). -/

namespace CrossCheck.Toml

open Text

@[simp]
theorem skipGap_nil : skipGap [] = [] := by rw [skipGap]

theorem statement?_nil : statement? [] = none := by
  simp [statement?, char?, key?, keyPart?, string?]

theorem statementsFrom?_nil (read : List Statement) :
    statementsFrom? read [] = some read.reverse := by
  rw [statementsFrom?, if_pos (by simp)]

theorem statementsFrom?_cons {read : List Statement} {s : List Char} {st : Statement}
    {r : Rest s.length} (hs : skipGap s = s) (h : statement? s = some (st, r)) :
    statementsFrom? read s = statementsFrom? (st :: read) r.1 := by
  have hne : ¬ (skipGap s).isEmpty = true := by
    rw [hs, List.isEmpty_iff]
    rintro rfl
    rw [statement?_nil] at h
    cases h
  -- What is left has a type that depends on the text.
  have hgap : ∀ t (ht : t = s), statement? t = some (st, ⟨r.1, ht ▸ r.2⟩) := by
    rintro t rfl
    exact h
  rw [statementsFrom?, hgap _ hs, if_neg hne]

theorem statement?_of_entry {s : List Char} {path : List String} {v : Value} {r₁ : Rest s.length}
    {r₂ : Rest r₁.1.length} {r₃ : Rest r₂.1.length}
    {r₄ : { r : List Char // r.length ≤ r₃.1.length }}
    (hc : char? '[' s = none) (hk : key? [] s (Nat.le_refl _) = some (path, r₁))
    (he : equals? false r₁.1 = some r₂)
    (hv : value? maxLevels r₂.1 (Nat.le_refl _) = some (v, r₃)) (hl : lineEnd? r₃.1 = some r₄) :
    ∃ h, statement? s = some (.entry path v, ⟨r₄.1, h⟩) := by
  refine ⟨Nat.lt_of_le_of_lt r₄.2 (Nat.lt_trans r₃.2 (Nat.lt_trans r₂.2 r₁.2)), ?_⟩
  simp [statement?, hc, hk, he, hv, hl]

/-! ### Keys without quotes -/

theorem ne_of_isKeyChar {c d : Char} (hc : isKeyChar c = true) (hd : isKeyChar d = false) :
    c ≠ d := by
  rintro rfl
  rw [hc] at hd
  cases hd

theorem keyPart?_bare {part : List Char} (hne : part ≠ []) (hpart : ∀ c ∈ part, isKeyChar c = true)
    {c : Char} (hc : isKeyChar c = false) (t : List Char) :
    ∃ hr, keyPart? ((part ++ c :: t).dropWhile isBlank) = some (.ofList part, ⟨c :: t, hr⟩) := by
  have hblank : (part ++ c :: t).dropWhile isBlank = part ++ c :: t := by
    obtain ⟨d, part, rfl⟩ := List.exists_cons_of_ne_nil hne
    have hd := hpart d List.mem_cons_self
    have hspace : d ≠ ' ' := ne_of_isKeyChar hd (by decide)
    have htab : d ≠ '\t' := ne_of_isKeyChar hd (by decide)
    rw [List.cons_append, List.dropWhile_cons_of_neg (by simp [isBlank, hspace, htab])]
  have htake : (part ++ c :: t).takeWhile isKeyChar = part := by
    rw [List.takeWhile_append_of_pos hpart, List.takeWhile_cons_of_neg (by simp [hc]),
      List.append_nil]
  have hlength := List.length_pos_iff.mpr hne
  rw [hblank]
  refine ⟨by simp only [List.length_append]; omega, ?_⟩
  simp [keyPart?, htake, hne]

section
variable {n : Nat} {read : List String} {part : List Char} (hread : read.length ≠ maxKeyParts)
  (hne : part ≠ []) (hpart : ∀ c ∈ part, isKeyChar c = true)
include hread hne hpart

theorem key?_dot {t : List Char} (h : (part ++ '.' :: t).length ≤ n) :
    ∃ ht, key? read (part ++ '.' :: t) h = key? (.ofList part :: read) t ht := by
  obtain ⟨hr, hkey⟩ := keyPart?_bare hne hpart (c := '.') (by decide) t
  refine ⟨by simp at h; omega, ?_⟩
  rw [key?, if_neg hread]
  simp only [hkey]
  rfl

theorem key?_equals {t : List Char} (h : (part ++ '=' :: t).length ≤ n) :
    ∃ ht, key? read (part ++ '=' :: t) h =
      some ((.ofList part :: read).reverse, ⟨'=' :: t, ht⟩) := by
  obtain ⟨hr, hkey⟩ := keyPart?_bare hne hpart (c := '=') (by decide) t
  have hlength := List.length_pos_iff.mpr hne
  refine ⟨by simp only [List.length_append] at h; omega, ?_⟩
  rw [key?, if_neg hread]
  simp only [hkey]
  rfl

end

/-! ### Literal strings -/

/-- A character of a literal string. -/
def isLiteralChar (c : Char) : Bool :=
  c ≠ '\'' && isPlain c

theorem literal?_append {n : Nat} {value : List Char}
    (hvalue : ∀ c ∈ value, isLiteralChar c = true) (read rest : List Char)
    (h : (value ++ '\'' :: rest).length ≤ n) :
    ∃ hr, literal? read (value ++ '\'' :: rest) h = some (read.reverse ++ value, ⟨rest, hr⟩) := by
  induction value generalizing read with
  | nil =>
    rw [List.append_nil]
    exact ⟨h, rfl⟩
  | cons c value ih =>
    obtain ⟨hc, hvalue⟩ := List.forall_mem_cons.mp hvalue
    obtain ⟨hquote, hplain⟩ : c ≠ '\'' ∧ isPlain c = true := by simpa [isLiteralChar] using hc
    rw [List.cons_append, List.length_cons] at h
    obtain ⟨hr, hread⟩ := ih hvalue (c :: read) (by omega)
    refine ⟨hr, ?_⟩
    show literal? read (c :: (value ++ '\'' :: rest)) h = _
    rw [literal?, if_neg hquote, if_pos hplain, hread, List.reverse_cons, List.append_assoc,
      List.singleton_append]

theorem string?_literal (multiline : Bool) {value : List Char} (hne : value ≠ [])
    (hvalue : ∀ c ∈ value, isLiteralChar c = true) (rest : List Char) :
    ∃ hr, string? multiline ('\'' :: (value ++ '\'' :: rest)) = some (value, ⟨rest, hr⟩) := by
  obtain ⟨hr, hread⟩ := literal?_append hvalue [] rest (Nat.le_succ _)
  have htriple : isTriple '\'' ('\'' :: (value ++ '\'' :: rest)) = false := by
    obtain ⟨c, value, rfl⟩ := List.exists_cons_of_ne_nil hne
    have hquote : c ≠ '\'' := by
      rintro rfl
      exact absurd (hvalue _ List.mem_cons_self) (by decide)
    simp [isTriple, hquote]
  refine ⟨hr, ?_⟩
  rw [string?, if_pos (by decide), if_neg (by simp [htriple]), if_neg (by decide), hread]
  rfl

theorem value?_literal {n : Nat} (levels : Nat) {value : List Char} (hne : value ≠ [])
    (hvalue : ∀ c ∈ value, isLiteralChar c = true) (rest : List Char)
    (h : ('\'' :: (value ++ '\'' :: rest)).length ≤ n) :
    ∃ hr, value? levels ('\'' :: (value ++ '\'' :: rest)) h =
      some (.text (.ofList value), ⟨rest, hr⟩) := by
  obtain ⟨hr, hread⟩ := string?_literal true hne hvalue rest
  refine ⟨Nat.lt_of_lt_of_le hr h, ?_⟩
  rw [value?.eq_def]
  simp [hread]

/-! ### Texts of one entry -/

theorem skipGap_key {c : Char} (hc : isKeyChar c = true) (s : List Char) :
    skipGap (c :: s) = c :: s := by
  have hne : ∀ d, isKeyChar d = false → c ≠ d := fun d => ne_of_isKeyChar hc
  rw [skipGap]
  simp [isBlank, hne ' ' (by decide), hne '\t' (by decide), hne '\n' (by decide),
    hne '\r' (by decide), hne '#' (by decide)]

/-- **A text of one entry** with a key without quotes and a literal string. -/
theorem parse?_of_key {c : Char} {s value : List Char} {path : List String}
    (hc : isKeyChar c = true) (hne : value ≠ [])
    (hvalue : ∀ d ∈ value, isLiteralChar d = true)
    (hkey : ∃ hr, key? [] (c :: s) (Nat.le_refl _) =
      some (path, ⟨'=' :: '\'' :: (value ++ ['\'']), hr⟩)) :
    Document.parse? (.ofList (c :: s)) =
      Document.ofStatements? [.entry path (.text (.ofList value))] := by
  obtain ⟨hr, hk⟩ := hkey
  have hchar : char? '[' (c :: s) = none := if_neg (ne_of_isKeyChar hc (by decide))
  have hmark : (c :: s).head? ≠ some '\ufeff' := fun h =>
    ne_of_isKeyChar hc (by decide) (Option.some.inj h)
  have he : equals? false ('=' :: '\'' :: (value ++ ['\''])) =
      some ⟨'\'' :: (value ++ ['\'']), Nat.lt_succ_self _⟩ := rfl
  obtain ⟨hr', hv⟩ := value?_literal maxLevels hne hvalue [] (Nat.le_refl _)
  have hl : lineEnd? [] = some ⟨[], Nat.le_refl _⟩ := rfl
  obtain ⟨_, hst⟩ := statement?_of_entry hchar hk he hv hl
  have hs : statements? (c :: s) = some [.entry path (.text (.ofList value))] := by
    rw [statements?, if_neg hmark, statementsFrom?_cons (skipGap_key hc s) hst,
      statementsFrom?_nil]
    rfl
  rw [Document.parse?, String.toList_ofList, hs]
  rfl

section
variable {first second : List Char} (hfirst : first ≠ [])
  (hfirst' : ∀ c ∈ first, isKeyChar c = true) (hsecond : second ≠ [])
  (hsecond' : ∀ c ∈ second, isKeyChar c = true)
include hfirst hfirst' hsecond hsecond'

theorem exists_key?_of_dotted (t : List Char) :
    ∃ hr, key? [] (first ++ '.' :: (second ++ '=' :: t)) (Nat.le_refl _) =
      some ([.ofList first, .ofList second], ⟨'=' :: t, hr⟩) := by
  have hone : [String.ofList first].length ≠ maxKeyParts := by
    rw [List.length_singleton]
    decide
  obtain ⟨h, hdot⟩ := @key?_dot _ [] _ (by decide) hfirst hfirst' _ (Nat.le_refl _)
  obtain ⟨hr, hequals⟩ := key?_equals hone hsecond hsecond' h
  exact ⟨hr, hdot.trans hequals⟩

/-- One dotted key makes a table in a table. -/
theorem parse?_dotted {value : List Char} (hvalue : value ≠ [])
    (hvalue' : ∀ c ∈ value, isLiteralChar c = true) :
    Document.parse? (.ofList (first ++ '.' :: (second ++ '=' :: '\'' :: (value ++ ['\''])))) =
      some [(.ofList first, .table .dotted [(.ofList second, .text (.ofList value))])] := by
  have hkey := exists_key?_of_dotted hfirst hfirst' hsecond hsecond' ('\'' :: (value ++ ['\'']))
  obtain ⟨c, first, rfl⟩ := List.exists_cons_of_ne_nil hfirst
  exact parse?_of_key (hfirst' c List.mem_cons_self) hvalue hvalue' hkey

end

end CrossCheck.Toml
