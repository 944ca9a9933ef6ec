import CrossCheck.Text.Whitespace

/-!
# Hash tokens

A hash token is a word of lower-case hexadecimal digits with white space on both sides. Cutting a
text at each of its white space characters gives fields; all but the first and the last have white
space on both sides, so the tokens of a text are found among its inner fields.
-/

namespace CrossCheck.Extract

open Text

/-- A hexadecimal digit in lower case. -/
def isLowerHex (c : Char) : Bool :=
  ('0' ≤ c && c ≤ '9') || ('a' ≤ c && c ≤ 'f')

/-- The parts of a text between two neighbouring white space characters. -/
def innerFields (text : List Char) : List (List Char) :=
  (text.splitOnP isWhitespace).tail.dropLast

/-- The words of `n` lower-case hexadecimal digits that have white space on both sides, in order of
position. A word that touches an end of the text is not among them. -/
def hexTokens (n : Nat) (text : List Char) : List (List Char) :=
  (innerFields text).filter fun w => !w.isEmpty && w.length == n && w.all isLowerHex

end CrossCheck.Extract
