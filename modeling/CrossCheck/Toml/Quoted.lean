import CrossCheck.Text.Whitespace
import CrossCheck.Toml.Scalar

/-!
# TOML strings

A string is written in one of four ways: on one line or over several, and with escapes or literally.
Each reader below starts after the opening quotes and gives the string and what is left after the
closing ones. What is left is shorter than what was there, which its type says, so that a reader of
several things one after another ends.
-/

namespace CrossCheck.Toml

open Text

/-- What is left of a text of `n` characters after something was read off its front. -/
abbrev Rest (n : Nat) := { rest : List Char // rest.length < n }

/-- A character that may stand in a comment or a string on one line: no control character but the
tab. -/
def isPlain (c : Char) : Bool :=
  c = '\t' || (' ' ≤ c && c ≠ '\x7f')

/-- Takes a newline off the front of a text. -/
def newline? : List Char → Option (List Char)
  | '\n' :: s => some s
  | '\r' :: '\n' :: s => some s
  | _ => none

theorem length_lt_of_newline? {s r : List Char} (h : newline? s = some r) :
    r.length < s.length := by
  unfold newline? at h
  split at h <;> cases h <;> simp only [List.length_cons] <;> omega

/-- The text without the newline at its front, if it has one. -/
def skipNewline (s : List Char) : List Char :=
  (newline? s).getD s

theorem length_skipNewline (s : List Char) : (skipNewline s).length ≤ s.length := by
  unfold skipNewline
  cases h : newline? s with
  | none => simp
  | some r => simpa using Nat.le_of_lt (length_lt_of_newline? h)

/-- The text without the blanks and newlines at its front. -/
def skipSpace : List Char → List Char
  | ' ' :: s => skipSpace s
  | '\t' :: s => skipSpace s
  | '\n' :: s => skipSpace s
  | '\r' :: '\n' :: s => skipSpace s
  | s => s

theorem length_skipSpace (s : List Char) : (skipSpace s).length ≤ s.length := by
  fun_induction skipSpace s <;> simp_all <;> omega

theorem length_dropWhile (p : Char → Bool) (s : List Char) :
    (s.dropWhile p).length ≤ s.length :=
  (List.dropWhile_sublist p).length_le

/-! ### Escapes -/

/-- The character whose code `n` hexadecimal digits give. -/
def coded? (n : Nat) (digits : List Char) : Option Char :=
  let code := hexNumber digits
  if digits.length = n && digits.all isHexDigit && code.isValidChar then some (.ofNat code)
  else none

/-- The number of digits in an escape that gives a character's code. -/
def codeLength : Char → Option Nat
  | 'x' => some 2
  | 'u' => some 4
  | 'U' => some 8
  | _ => none

/-- The character that a letter after a backslash stands for. -/
def shortEscape? : Char → Option Char
  | 'b' => some '\x08'
  | 't' => some '\t'
  | 'n' => some '\n'
  | 'f' => some '\x0c'
  | 'r' => some '\r'
  | 'e' => some '\x1b'
  | '"' => some '"'
  | '\\' => some '\\'
  | _ => none

theorem length_drop_lt (n : Nat) (c : Char) (s : List Char) :
    (s.drop n).length < (c :: s).length := by
  simp only [List.length_drop, List.length_cons]
  omega

theorem length_lt_cons (c : Char) (s : List Char) : s.length < (c :: s).length :=
  Nat.lt_succ_self s.length

/-- Reads what follows a backslash. -/
def escape? : (s : List Char) → Option (Char × Rest s.length)
  | [] => none
  | c :: s =>
    match codeLength c with
    | some n => (coded? n (s.take n)).map fun d =>
        (d, ⟨s.drop n, length_drop_lt n c s⟩)
    | none => (shortEscape? c).map fun d => (d, ⟨s, length_lt_cons c s⟩)

/-- Reads a newline after a backslash and blanks, and with it all blanks and newlines that follow.
-/
def continuation? (s : List Char) : Option (List Char) :=
  (newline? (s.dropWhile isBlank)).map skipSpace

theorem length_lt_of_continuation? {s r : List Char} (h : continuation? s = some r) :
    r.length < s.length := by
  obtain ⟨t, ht, rfl⟩ := Option.map_eq_some_iff.1 h
  have := length_lt_of_newline? ht
  have := length_dropWhile isBlank s
  have := length_skipSpace t
  omega

/-! ### The four ways to write a string -/

/-- Reads a string with escapes on one line; `read` is what was read so far, last character first.
-/
def basic? {n : Nat} (read : List Char) (s : List Char) (h : s.length ≤ n) :
    Option (List Char × Rest n) :=
  match s with
  | [] => none
  | c :: s =>
    if c = '"' then some (read.reverse, ⟨s, by simp at h; omega⟩)
    else if c = '\\' then
      match escape? s with
      | none => none
      | some (d, ⟨r, hr⟩) => basic? (d :: read) r (by simp at h; omega)
    else if isPlain c then basic? (c :: read) s (by simp at h; omega)
    else none
  termination_by s.length

/-- Reads a literal string on one line. -/
def literal? {n : Nat} (read : List Char) (s : List Char) (h : s.length ≤ n) :
    Option (List Char × Rest n) :=
  match s with
  | [] => none
  | c :: s =>
    if c = '\'' then some (read.reverse, ⟨s, by simp at h; omega⟩)
    else if isPlain c then literal? (c :: read) s (by simp at h; omega)
    else none

/-- The quotes that stand before the closing ones of a string over several lines, at most two, and
what is left after all of them; `s` starts after three quotes. -/
def closing (quote : Char) :
    (s : List Char) → List Char × { r : List Char // r.length ≤ s.length }
  | c :: d :: s =>
    if c = quote && d = quote then ([c, d], ⟨s, by simp; omega⟩)
    else if c = quote then ([c], ⟨d :: s, by simp⟩)
    else ([], ⟨c :: d :: s, by simp⟩)
  | [c] => if c = quote then ([c], ⟨[], by simp⟩) else ([], ⟨[c], by simp⟩)
  | [] => ([], ⟨[], by simp⟩)

/-- Three quotes stand at the front of a text. -/
def isTriple (quote : Char) (s : List Char) : Bool :=
  s.take 3 = [quote, quote, quote]

/-- Reads a string over several lines, after the newline that may follow its opening quotes.
Newlines stay as they are. -/
def multiline? {n : Nat} (escapes : Bool) (quote : Char) (read : List Char) (s : List Char)
    (h : s.length ≤ n) : Option (List Char × Rest n) :=
  match s with
  | [] => none
  | c :: s =>
    if isTriple quote (c :: s) then
      match closing quote (s.drop 2) with
      | (more, ⟨r, hr⟩) =>
        some (read.reverse ++ more, ⟨r, by simp at h hr; omega⟩)
    else if escapes && c = '\\' then
      match hc : continuation? s with
      | some r =>
        have := length_lt_of_continuation? hc
        multiline? escapes quote read r (by simp at h; omega)
      | none =>
        match escape? s with
        | none => none
        | some (d, ⟨r, hr⟩) => multiline? escapes quote (d :: read) r (by simp at h; omega)
    else if isPlain c || c = '\n' || (c = '\r' && s.head? = some '\n') then
      multiline? escapes quote (c :: read) s (by simp at h; omega)
    else none
  termination_by s.length

/-- Reads a string that may be written in any of the four ways, or only on one line. -/
def string? (multiline : Bool) : (s : List Char) → Option (List Char × Rest s.length)
  | [] => none
  | c :: s =>
    if c = '"' || c = '\'' then
      if isTriple c (c :: s) then
        if multiline then
          multiline? (c = '"') c [] (skipNewline (s.drop 2)) (by
            have := length_skipNewline (s.drop 2)
            simp at this ⊢
            omega)
        else none
      else if c = '"' then basic? [] s (by simp)
      else literal? [] s (by simp)
    else none

end CrossCheck.Toml
