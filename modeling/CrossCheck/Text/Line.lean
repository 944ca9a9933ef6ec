import CrossCheck.Text.Utf8

/-!
# Lines of a byte stream

What a program writes arrives line by line, and each line is decoded by itself, its newline
included.
-/

namespace CrossCheck.Text

/-- The newline as a byte. -/
def newlineByte : UInt8 := 10

/-- The lines of a byte stream, each with the newline that ends it. After the last newline there is
one more line if anything is left. -/
def byteLines (bytes : List UInt8) : List (List UInt8) :=
  let fields := bytes.splitOn newlineByte
  fields.dropLast.map (· ++ [newlineByte]) ++ (fields.getLast?.filter (!·.isEmpty)).toList

/-- The lines of a byte stream as text. -/
def decodedLines (bytes : List UInt8) : List (List Char) :=
  (byteLines bytes).map Utf8.decode

end CrossCheck.Text
