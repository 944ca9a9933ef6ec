import CrossCheck.Toml.Quoted

/-!
# TOML documents

A document is read in two steps: its text is cut into statements, and the statements make up one
table. Reading either succeeds or fails; where it fails is of no concern here.

* `statements?` : headers and entries, in order
* `Document.ofStatements?` : the table that they make
* `Document.parse?` : both steps
-/

namespace CrossCheck.Toml

open Text

/-- Values nest at most this deep. -/
def maxLevels : Nat := 80

/-- A key has at most this many parts. -/
def maxKeyParts : Nat := 80

/-- A character of a key without quotes. -/
def isKeyChar (c : Char) : Bool :=
  c.isAlphanum || c = '_' || c = '-'

/-! ### Space between things -/

/-- The text without the blanks, newlines and comments at its front. -/
def skipGap (s : List Char) : List Char :=
  match s with
  | [] => []
  | c :: s =>
    if isBlank c || c = '\n' then skipGap s
    else if c = '\r' && s.head? = some '\n' then skipGap s
    else if c = '#' then skipGap (s.dropWhile isPlain)
    else c :: s
  termination_by s.length
  decreasing_by
    · simp
    · simp
    · have := length_dropWhile isPlain s
      simp
      omega

theorem length_skipGap (s : List Char) : (skipGap s).length ≤ s.length := by
  fun_induction skipGap s with
  | case1 => simp
  | case2 c s _ ih => simp; omega
  | case3 c s _ _ ih => simp; omega
  | case4 s =>
    have := length_dropWhile isPlain s
    simp
    omega
  | case5 => simp

/-- The text without the comment at its front, if it has one. -/
def skipComment (s : List Char) : List Char :=
  if s.head? = some '#' then s.dropWhile isPlain else s

theorem length_skipComment (s : List Char) : (skipComment s).length ≤ s.length := by
  unfold skipComment
  split
  · exact length_dropWhile isPlain s
  · exact Nat.le_refl _

/-- Reads the end of a line: blanks, perhaps a comment, and a newline or the end of the text. -/
def lineEnd? (s : List Char) : Option { r : List Char // r.length ≤ s.length } :=
  let rest := skipComment (s.dropWhile isBlank)
  have h : rest.length ≤ s.length :=
    Nat.le_trans (length_skipComment _) (length_dropWhile isBlank s)
  if rest.isEmpty then some ⟨[], Nat.zero_le _⟩
  else
    match hn : newline? rest with
    | some r => some ⟨r, Nat.le_trans (Nat.le_of_lt (length_lt_of_newline? hn)) h⟩
    | none => none

/-! ### Keys -/

/-- Reads one part of a key. -/
def keyPart? (s : List Char) : Option (String × Rest s.length) :=
  let bare := s.takeWhile isKeyChar
  if h : bare ≠ [] then
    some (.ofList bare, ⟨s.drop bare.length, by
      have h₁ := List.length_pos_iff.2 h
      have h₂ := (List.takeWhile_sublist isKeyChar (l := s)).length_le
      simp only [List.length_drop]
      simp only [bare] at h₁ ⊢
      omega⟩)
  else (string? false s).map fun (part, rest) => (.ofList part, rest)

/-- Reads a key: its parts stand between dots and blanks. The parts in `read` come before it, last
one first. -/
def key? {n : Nat} (read : List String) (s : List Char) (h : s.length ≤ n) :
    Option (List String × Rest n) :=
  if read.length = maxKeyParts then none else
  match keyPart? (s.dropWhile isBlank) with
  | none => none
  | some (part, ⟨r, hr⟩) =>
    have h₁ := length_dropWhile isBlank s
    have h₂ := length_dropWhile isBlank r
    match hd : r.dropWhile isBlank with
    | '.' :: r' => key? (part :: read) r' (by simp [hd] at h₂; omega)
    | r' => some ((part :: read).reverse, ⟨r', by simp [hd] at h₂; omega⟩)
  termination_by s.length
  decreasing_by simp [hd] at h₂; omega

/-- The text without the space at its front: blanks and, in braces, newlines and comments. -/
def skip (inBraces : Bool) (s : List Char) : List Char :=
  if inBraces then skipGap s else s.dropWhile isBlank

theorem length_skip (inBraces : Bool) (s : List Char) : (skip inBraces s).length ≤ s.length := by
  unfold skip
  split
  · exact length_skipGap s
  · exact length_dropWhile isBlank s

/-- Reads the equals sign of an entry and the space around it. -/
def equals? (inBraces : Bool) (s : List Char) : Option (Rest s.length) :=
  have h₁ := length_skip inBraces s
  match hs : skip inBraces s with
  | '=' :: r =>
    some ⟨skip inBraces r, by
      have := length_skip inBraces r
      simp [hs] at h₁
      omega⟩
  | _ => none

/-! ### Values -/

/-- Reads a value without brackets. -/
def scalar? (s : List Char) : Option (Value × Rest s.length) :=
  let n := Scalar.length s
  if h : 0 < n ∧ n ≤ s.length then
    (Scalar.value? (s.take n)).map fun v =>
      (v, ⟨s.drop n, by simp only [List.length_drop]; omega⟩)
  else none

mutual

/-- Reads a value that may nest `levels` deep. -/
def value? {n : Nat} (levels : Nat) (s : List Char) (h : s.length ≤ n) :
    Option (Value × Rest n) :=
  match s with
  | [] => none
  | c :: s =>
    if c = '[' then
      match levels with
      | 0 => none
      | levels + 1 =>
        (items? levels [] s (Nat.lt_of_succ_le h)).map fun (items, rest) =>
          (.array false items, rest)
    else if c = '{' then
      match levels with
      | 0 => none
      | levels + 1 =>
        (fields? levels [] s (Nat.lt_of_succ_le h)).map fun (entries, rest) =>
          (.table .inline entries, rest)
    else if c = '"' || c = '\'' then
      (string? true (c :: s)).map fun (t, ⟨r, hr⟩) =>
        (.text (.ofList t), ⟨r, by omega⟩)
    else (scalar? (c :: s)).map fun (v, ⟨r, hr⟩) => (v, ⟨r, by omega⟩)
  termination_by (s.length, 0)

/-- Reads what is left of an array up to its closing bracket; `read` holds the items read so far,
last item first. -/
def items? {n : Nat} (levels : Nat) (read : List Value) (s : List Char) (h : s.length < n) :
    Option (List Value × Rest n) :=
  have h₁ := length_skipGap s
  if hc : (skipGap s).head? = some ']' then
    some (read.reverse, ⟨(skipGap s).tail, by simp; omega⟩)
  else
    match value? levels (skipGap s) (Nat.le_refl _) with
    | none => none
    | some (v, ⟨r, hr⟩) =>
      have h₂ := length_skipGap r
      match hs : skipGap r with
      | ',' :: r' => items? levels (v :: read) r' (by simp [hs] at h₂; omega)
      | ']' :: r' => some ((v :: read).reverse, ⟨r', by simp [hs] at h₂; omega⟩)
      | _ => none
  termination_by (s.length, 1)
  decreasing_by
    · simp only [Prod.lex_def]; omega
    · simp [hs] at h₂; simp only [Prod.lex_def]; omega

/-- Reads what is left of a table in braces up to its closing brace. -/
def fields? {n : Nat} (levels : Nat) (read : Entries) (s : List Char) (h : s.length < n) :
    Option (Entries × Rest n) :=
  have h₁ := length_skipGap s
  if hc : (skipGap s).head? = some '}' then
    some (read, ⟨(skipGap s).tail, by simp; omega⟩)
  else
    match key? [] (skipGap s) (Nat.le_refl _) with
    | none => none
    | some (path, ⟨r₁, hr₁⟩) =>
      match equals? true r₁ with
      | none => none
      | some ⟨r₂, hr₂⟩ =>
        match value? levels r₂ (Nat.le_refl _) with
        | none => none
        | some (v, ⟨r₃, hr₃⟩) =>
          match read.insert path v .inline with
          | none => none
          | some read =>
            have h₂ := length_skipGap r₃
            match hs : skipGap r₃ with
            | ',' :: r' => fields? levels read r' (by simp [hs] at h₂; omega)
            | '}' :: r' => some (read, ⟨r', by simp [hs] at h₂; omega⟩)
            | _ => none
  termination_by (s.length, 1)
  decreasing_by
    · simp only [Prod.lex_def]; omega
    · simp [hs] at h₂; simp only [Prod.lex_def]; omega

end

/-! ### Statements -/

/-- A statement of a document. -/
inductive Statement where
  /-- A header `[a.b]`. -/
  | header (path : List String)
  /-- A header `[[a.b]]`. -/
  | element (path : List String)
  /-- An entry `a.b = v`. -/
  | entry (path : List String) (value : Value)
  deriving Repr

/-- Takes a character off the front of a text. -/
def char? (c : Char) : (s : List Char) → Option (Rest s.length)
  | [] => none
  | d :: s => if d = c then some ⟨s, Nat.lt_succ_self _⟩ else none

/-- Reads the statement at the front of a text, up to the end of its line. -/
def statement? (s : List Char) : Option (Statement × Rest s.length) :=
  match char? '[' s with
  | some ⟨r₁, h₁⟩ =>
    match char? '[' r₁ with
    | some ⟨r₂, h₂⟩ => do
      let (path, ⟨r₃, h₃⟩) ← key? [] r₂ (Nat.le_refl _)
      let ⟨r₄, h₄⟩ ← char? ']' r₃
      let ⟨r₅, h₅⟩ ← char? ']' r₄
      let ⟨r₆, h₆⟩ ← lineEnd? r₅
      return (.element path, ⟨r₆, by omega⟩)
    | none => do
      let (path, ⟨r₂, h₂⟩) ← key? [] r₁ (Nat.le_refl _)
      let ⟨r₃, h₃⟩ ← char? ']' r₂
      let ⟨r₄, h₄⟩ ← lineEnd? r₃
      return (.header path, ⟨r₄, by omega⟩)
  | none => do
    let (path, ⟨r₁, h₁⟩) ← key? [] s (Nat.le_refl _)
    let ⟨r₂, h₂⟩ ← equals? false r₁
    let (v, ⟨r₃, h₃⟩) ← value? maxLevels r₂ (Nat.le_refl _)
    let ⟨r₄, h₄⟩ ← lineEnd? r₃
    return (.entry path v, ⟨r₄, by omega⟩)

/-- Cuts a text into statements; `read` holds those read so far, last one first. -/
def statementsFrom? (read : List Statement) (s : List Char) : Option (List Statement) :=
  if (skipGap s).isEmpty then some read.reverse
  else
    match statement? (skipGap s) with
    | none => none
    | some (st, ⟨r, _⟩) => statementsFrom? (st :: read) r
  termination_by s.length
  decreasing_by
    have := length_skipGap s
    omega

/-- The statements of a text. A byte order mark at its front is passed over. -/
def statements? (text : List Char) : Option (List Statement) :=
  statementsFrom? [] (if text.head? = some '\ufeff' then text.tail else text)

/-! ### Documents -/

namespace Document

/-- Adds a statement to a document. Entries go into the table of the last header, whose path the
state holds beside the entries of the document. -/
def add? : List String × Entries → Statement → Option (List String × Entries)
  | (_, es), .header path => (es.openTable path).map fun es => (path, es)
  | (_, es), .element path => (es.openElement path).map fun es => (path, es)
  | (here, es), .entry path v =>
    (es.reach false (Entries.insert path v) here .header).map fun es => (here, es)

/-- The table that statements make. -/
def ofStatements? (statements : List Statement) : Option Entries :=
  (statements.foldlM add? ([], [])).map Prod.snd

/-- The table that a text describes, or `none` if the text is no document. -/
def parse? (text : String) : Option Entries :=
  (statements? text.toList).bind ofStatements?

end Document

end CrossCheck.Toml
