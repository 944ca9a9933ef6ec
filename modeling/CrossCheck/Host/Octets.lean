import CrossCheck.Text.Utf8

/-!
# Octets

Programs take texts apart byte by byte and know nothing of characters. Inside a host a text is
therefore a list of octets: characters below U+0100, each of which stands for the byte that is its
code.

* `octets` : the octets of a text
* `Octets.text` : the text of octets, with U+FFFD for what is no character
-/

namespace CrossCheck.Host

/-- A text as the bytes of its characters. -/
abbrev Octets := List Char

/-- The octets of bytes. -/
def Octets.ofBytes (bytes : List UInt8) : Octets :=
  bytes.map fun b => .ofNat b.toNat

/-- The bytes of octets. -/
def Octets.toBytes (s : Octets) : List UInt8 :=
  s.map fun c => .ofNat c.toNat

/-- The octets of a text. -/
def octets (s : String) : Octets :=
  .ofBytes (Text.Utf8.encode s.toList)

/-- The text of octets. -/
def Octets.text (s : Octets) : String :=
  .ofList (Text.Utf8.decode s.toBytes)

/-- The octets of a text as a string. -/
def octetString (s : String) : String :=
  .ofList (octets s)

/-- The text of a string of octets. -/
def textOf (s : String) : String :=
  Octets.text s.toList

/-- The digits of a number. -/
def digitsOf (n : Nat) : List Char :=
  Nat.toDigits 10 n

/-- The number that decimal digits stand for. -/
def decimalOf (digits : List Char) : Nat :=
  digits.foldl (fun v c => 10 * v + (c.toNat - 48)) 0

/-- The number that a text of nothing but decimal digits stands for. -/
def natural? (s : List Char) : Option Nat :=
  if !s.isEmpty && s.all Char.isDigit then some (decimalOf s) else none

/-- The pieces of a text between the places where `mark` stands. -/
def splitAt (mark : Char) (s : String) : List String :=
  (s.toList.splitOn mark).map String.ofList

/-- The lines of octets, each with the newline that ends it. -/
def linesOf (s : Octets) : List Octets :=
  let fields := s.splitOn '\n'
  fields.dropLast.map (· ++ ['\n']) ++ (fields.getLast?.filter fun l => !l.isEmpty).toList

end CrossCheck.Host
