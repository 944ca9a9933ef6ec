/-!
# Letter case

Two ways to disregard the case of letters. `lower` knows the letters of ASCII only; `fold` is simple
Unicode case folding as far as it leads to ASCII letters, which adds just two characters.
-/

namespace CrossCheck.Text

/-- The text with its ASCII capitals made small. -/
def lower (s : List Char) : List Char :=
  s.map Char.toLower

/-- Two texts are the same but for the case of ASCII letters. -/
def sameLetters (s t : List Char) : Bool :=
  lower s = lower t

/-- Simple case folding onto ASCII: the long s folds to `s` and the Kelvin sign to `k`, and no
other character outside ASCII folds to an ASCII letter. -/
def fold (c : Char) : Char :=
  if c = '\u017f' then 's' else if c = '\u212a' then 'k' else c.toLower

end CrossCheck.Text
