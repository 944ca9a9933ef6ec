import CrossCheck.Hash
import CrossCheck.Text.LetterCase
import CrossCheck.Text.Whitespace

/-!
# Label lines

A label line names an algorithm and a kind of hash and gives its value:

    MD5 hash stored in file: 0123456789abcdef0123456789abcdef
    SHA1 hash calculated over data: N/A

Around and between the label words stand blanks (spaces and tabs); the words may be in any letter
case; the value is one run of characters other than white space, and after it the line holds nothing
but blanks and carriage returns.
-/

namespace CrossCheck

/-- The label word of an algorithm, in small letters. -/
def Algorithm.labelWord : Algorithm → List Char
  | .md5 => "md5".toList
  | .sha1 => "sha1".toList

/-- The label words of a kind of hash, in small letters. -/
def HashKind.labelWords : HashKind → List Char
  | .stored => "stored in file".toList
  | .computed => "calculated over data".toList

namespace Extract

open Text

/-- Takes some spelling of `word` off the front of `text`: gives the spelling and the rest. Letters
are compared by case folding. -/
def spelled? (word text : List Char) : Option (List Char × List Char) :=
  let spelling := text.take word.length
  if spelling.map fold = word then some (spelling, text.drop word.length) else none

/-- Takes blanks off the front of `text`, at least one. -/
def blanks? : List Char → Option (List Char)
  | [] => none
  | c :: text => if isBlank c then some (text.dropWhile isBlank) else none

/-- Takes a colon off the front of `text`. -/
def colon? : List Char → Option (List Char)
  | ':' :: text => some text
  | _ => none

/-- What stands on a label line. -/
structure Label where
  algorithm : Algorithm
  /-- The kind whose label words the line has. -/
  kind : HashKind
  /-- The label words of the kind as the line spells them. -/
  spelling : List Char
  value : List Char
  deriving DecidableEq, Repr

namespace Label

/-- Reads an algorithm's label word. -/
def algorithm? (text : List Char) : Option (Algorithm × List Char) :=
  ((spelled? Algorithm.md5.labelWord text).map fun p => (.md5, p.2)) <|>
    ((spelled? Algorithm.sha1.labelWord text).map fun p => (.sha1, p.2))

/-- Reads the label words of a kind of hash. -/
def kind? (text : List Char) : Option (HashKind × List Char × List Char) :=
  ((spelled? HashKind.stored.labelWords text).map fun p => (.stored, p)) <|>
    ((spelled? HashKind.computed.labelWords text).map fun p => (.computed, p))

/-- Reads a value and what may follow it: blanks and carriage returns up to the end of the line. -/
def value? (text : List Char) : Option (List Char) :=
  let value := text.takeWhile fun c => !isWhitespace c
  let after := text.dropWhile fun c => !isWhitespace c
  if !value.isEmpty && after.all fun c => isBlank c || c = '\r' then some value else none

/-- Reads a line, which holds no newline, as a label line. -/
def ofLine? (line : List Char) : Option Label := do
  let (algorithm, rest) ← algorithm? (line.dropWhile isBlank)
  let rest ← blanks? rest
  let (_, rest) ← spelled? "hash".toList rest
  let rest ← blanks? rest
  let (kind, spelling, rest) ← kind? rest
  let rest ← colon? (rest.dropWhile isBlank)
  let value ← value? (rest.dropWhile isBlank)
  return { algorithm, kind, spelling, value }

/-- The slot in which the value of a label line is filed. A line counts as one about the stored hash
only if it spells the label words with ASCII letters. -/
def slot (l : Label) : HashKind :=
  if sameLetters l.spelling HashKind.stored.labelWords then .stored else .computed

/-- The value in its normal form: `N/A` in capitals and all else in small letters. -/
def normalValue (l : Label) : List Char :=
  if sameLetters l.value "n/a".toList then "N/A".toList else lower l.value

end Label

/-- The label lines of a text in order. -/
def labels (text : List Char) : List Label :=
  (text.splitOn '\n').filterMap Label.ofLine?

end Extract

end CrossCheck
