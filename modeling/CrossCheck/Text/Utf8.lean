/-!
# UTF-8

Bytes are decoded one at a time. A sequence that has begun holds its bits so far and the bounds that
its next byte must keep; a byte outside the bounds ends the sequence as no character and begins
anew. So what is no character is always as long a beginning of some character as there is, or one
byte that begins none.

* `scan` : the characters of a byte sequence, and a gap for each piece that is none
* `decode` : the same with U+FFFD in the gaps
* `decode?` : the characters, if their bytes are the byte sequence again
-/

namespace CrossCheck.Text

namespace Utf8

/-- A sequence that has begun and is not complete. -/
structure Sequence where
  /-- The bits of the character read so far. -/
  bits : Nat
  /-- How many bytes are still due. -/
  due : Nat
  /-- The least next byte. -/
  low : Nat
  /-- The greatest next byte. -/
  high : Nat
  deriving DecidableEq, Repr

/-- A decoder between two bytes: the sequence that has begun, and what was read, last first. -/
structure Decoder where
  begun : Option Sequence := none
  read : List (Option Char) := []
  deriving DecidableEq, Repr

namespace Decoder

/-- Takes the first byte of a character. -/
def first (read : List (Option Char)) (b : Nat) : Decoder :=
  if b < 0x80 then ⟨none, some (.ofNat b) :: read⟩
  else if 0xc2 ≤ b ∧ b ≤ 0xdf then ⟨some ⟨b - 0xc0, 1, 0x80, 0xbf⟩, read⟩
  else if b = 0xe0 then ⟨some ⟨0, 2, 0xa0, 0xbf⟩, read⟩
  else if b = 0xed then ⟨some ⟨0xd, 2, 0x80, 0x9f⟩, read⟩
  else if 0xe1 ≤ b ∧ b ≤ 0xef then ⟨some ⟨b - 0xe0, 2, 0x80, 0xbf⟩, read⟩
  else if b = 0xf0 then ⟨some ⟨0, 3, 0x90, 0xbf⟩, read⟩
  else if 0xf1 ≤ b ∧ b ≤ 0xf3 then ⟨some ⟨b - 0xf0, 3, 0x80, 0xbf⟩, read⟩
  else if b = 0xf4 then ⟨some ⟨4, 3, 0x80, 0x8f⟩, read⟩
  else ⟨none, none :: read⟩

/-- Takes the next byte. -/
def step (d : Decoder) (byte : UInt8) : Decoder :=
  let b := byte.toNat
  match d.begun with
  | none => first d.read b
  | some s =>
    if s.low ≤ b ∧ b ≤ s.high then
      let bits := 64 * s.bits + (b - 0x80)
      if s.due = 1 then ⟨none, some (.ofNat bits) :: d.read⟩
      else ⟨some ⟨bits, s.due - 1, 0x80, 0xbf⟩, d.read⟩
    else first (none :: d.read) b

/-- What was read once there are no more bytes. -/
def finish (d : Decoder) : List (Option Char) :=
  match d.begun with
  | none => d.read.reverse
  | some _ => (none :: d.read).reverse

end Decoder

/-- The characters of a byte sequence in order, with `none` for each piece that is no character. -/
def scan (bytes : List UInt8) : List (Option Char) :=
  (bytes.foldl Decoder.step {}).finish

/-- The text of a byte sequence, with U+FFFD for each piece that is no character. -/
def decode (bytes : List UInt8) : List Char :=
  (scan bytes).map (·.getD '\ufffd')

/-- The bytes of a text. -/
def encode (s : List Char) : List UInt8 :=
  s.flatMap String.utf8EncodeChar

/-- The text of a byte sequence, if all of it is UTF-8. -/
def decode? (bytes : List UInt8) : Option (List Char) :=
  let s := decode bytes
  if encode s = bytes then some s else none

end Utf8

end CrossCheck.Text
