import CrossCheck.Host.Octets
import CrossCheck.Text.Hex

/-!
# Backslash escapes

What a backslash and the characters after it stand for in the texts of `echo` and `printf`. The
commands differ in which escapes they know, and a record says so for each of them.

* `Escapes.first` : the escape at the front of a text
* `Escapes.expand` : a text with all of its escapes replaced
-/

namespace CrossCheck.Host

/-- The escapes that a command knows besides the common ones. -/
structure Escapes where
  /-- `\c` cuts off all that would follow. -/
  stops : Bool := false
  /-- An octal code may have a zero in front of its three digits. -/
  leadingZero : Bool := false
  /-- `\"` stands for the quote. -/
  quotes : Bool := true
  /-- `\x` starts a hexadecimal code. -/
  hexadecimal : Bool := false
  /-- `\u` and `\U` start the code of a character, and a code without digits is refused. -/
  characters : Bool := false
  deriving DecidableEq, Repr

/-- What an escape stands for. -/
inductive Escaped where
  /-- A text in place of the backslash and the `used` characters after it. -/
  | text (s : Octets) (used : Nat)
  | stop
  | refused (message : String)
  deriving DecidableEq, Repr

/-- An octal digit. -/
def isOctal (c : Char) : Bool :=
  '0' ≤ c && c ≤ '7'

/-- The octet with a code. -/
def octetOf (code : Nat) : Char :=
  .ofNat (code % 256)

/-- The octet of a letter after a backslash. -/
def letterOctet? (c : Char) : Option Char :=
  [('a', '\x07'), ('b', '\x08'), ('e', '\x1b'), ('f', '\x0c'), ('n', '\n'), ('r', '\r'),
    ('t', '\t'), ('v', '\x0b'), ('\\', '\\')].lookup c

/-- A code with at least `n` digits, with zeros in front, in upper case. -/
def paddedHex (n code : Nat) : List Char :=
  let digits := (Nat.toDigits 16 code).map Char.toUpper
  List.replicate (n - digits.length) '0' ++ digits

namespace Escapes

/-- The character that exactly `n` hexadecimal digits give. One outside ASCII stays an escape. -/
def character (letter : Char) (n : Nat) (rest : List Char) : Escaped :=
  let digits := (rest.take n).takeWhile Text.isHexDigit
  let code := Text.hexNumber digits
  if digits.length < n then .refused "missing hexadecimal number in escape"
  else if code < 0x80 then .text [.ofNat code] (n + 1)
  else if code < 0x10000 then .text ('\\' :: 'u' :: paddedHex 4 code) (n + 1)
  else .text ('\\' :: letter :: paddedHex 8 code) (n + 1)

/-- What follows a backslash. -/
def first (e : Escapes) (s : List Char) : Escaped :=
  match s with
  | [] => .text ['\\'] 0
  | c :: rest =>
    match letterOctet? c with
    | some d => .text [d] 1
    | none =>
      let zero := e.leadingZero && c = '0' && rest.head?.any isOctal
      let octal := ((if zero then rest else s).take 3).takeWhile isOctal
      let hex := (rest.take 2).takeWhile Text.isHexDigit
      if isOctal c then
        .text [octetOf (octal.foldl (fun v c => 8 * v + (c.toNat - 48)) 0)]
          (octal.length + if zero then 1 else 0)
      else if c = '"' && e.quotes then .text ['"'] 1
      else if c = 'c' && e.stops then .stop
      else if c = 'x' && e.hexadecimal && !hex.isEmpty then
        .text [octetOf (Text.hexNumber hex)] (hex.length + 1)
      else if c = 'x' && e.characters then .refused "missing hexadecimal number in escape"
      else if c = 'u' && e.characters then character c 4 rest
      else if c = 'U' && e.characters then character c 8 rest
      else .text ['\\', c] 1

/-- A text that is written. -/
structure Expanded where
  text : Octets
  /-- All that would follow is cut off. -/
  stops : Bool := false
  refusal : Option String := none

/-- The text with its escapes replaced. -/
def expand (e : Escapes) (s : List Char) : Expanded :=
  match s with
  | [] => { text := [] }
  | c :: s =>
    if c ≠ '\\' then
      let x := expand e s
      { x with text := c :: x.text }
    else
      match first e s with
      | .stop => { text := [], stops := true }
      | .refused message => { text := [], refusal := some message }
      | .text t used =>
        let x := expand e (s.drop used)
        { x with text := t ++ x.text }
  termination_by s.length
  decreasing_by all_goals simp only [List.length_cons, List.length_drop]; omega

/-- The escapes in a format of the shell. -/
def shellFormat : Escapes := {}

/-- The escapes in texts that the shell writes. -/
def shellText : Escapes where
  stops := true
  leadingZero := true

/-- The escapes in a format of the tool `printf`. -/
def toolFormat : Escapes where
  stops := true
  hexadecimal := true
  characters := true

/-- The escapes in arguments of the tool `printf`. -/
def toolText : Escapes where
  stops := true
  leadingZero := true
  hexadecimal := true
  characters := true

/-- The escapes in texts that the tool `echo` writes. -/
def toolEcho : Escapes where
  stops := true
  leadingZero := true
  quotes := false
  hexadecimal := true

end Escapes

end CrossCheck.Host
