import CrossCheck.Host.Octets
import CrossCheck.Text.Hex

/-!
# Real numbers in formats

A number is read from decimal or hexadecimal digits and rounded to a binary precision; what is
written are the digits of the rounded number, rounded once more to as many as are asked for. Both
times a tie goes to the even neighbour.

* `Real.read` : the number at the front of a text
* `Real.fixed`, `Real.scientific`, `Real.shorter`, `Real.hexadecimal` : its digits
-/

namespace CrossCheck.Host

/-- A binary precision. -/
structure Precision where
  bits : Nat
  /-- The exponent of the lowest bit is at least this. -/
  lowest : Int
  /-- The exponent of the lowest bit is at most this. -/
  highest : Int
  /-- The bits in front of the point in hexadecimal digits. -/
  leading : Nat
  deriving DecidableEq, Repr

/-- Numbers of 64 bits. -/
def Precision.double : Precision := ⟨53, -1074, 971, 1⟩

/-- Numbers of 80 bits. -/
def Precision.extended : Precision := ⟨64, -16445, 16320, 4⟩

/-- A real number, as far as a format knows it. -/
inductive Magnitude where
  /-- The number `mantissa` · 2 ^ `exponent`. -/
  | finite (mantissa : Nat) (exponent : Int)
  | infinite
  | notNumber
  deriving DecidableEq, Repr

/-- A magnitude with a sign. -/
structure Real where
  negative : Bool := false
  magnitude : Magnitude
  deriving DecidableEq, Repr

/-- The whole number nearest to a quotient. A tie goes to the even neighbour. -/
def nearest (n d : Nat) : Nat :=
  let q := n / d
  let r := n % d
  if 2 * r < d then q else if d < 2 * r then q + 1 else q + q % 2

/-- The quotient of `n` · 2 ^ `e` and `d`, rounded to a whole number. -/
def nearestShifted (n d : Nat) (e : Int) : Nat :=
  if 0 ≤ e then nearest (n <<< e.toNat) d else nearest n (d <<< (-e).toNat)

/-- A quotient in a precision. -/
def Magnitude.ofQuotient (p : Precision) (n d : Nat) : Magnitude :=
  if n = 0 then .finite 0 0
  else
    let size : Int := n.log2 - d.log2
    let e := max p.lowest (size - p.bits)
    let low := nearestShifted n d (-e)
    let (m, e) := if low < 1 <<< p.bits then (low, e) else (nearestShifted n d (-(e + 1)), e + 1)
    let (m, e) := if m < 1 <<< p.bits then (m, e) else (m / 2, e + 1)
    if p.highest < e then .infinite else .finite m e

namespace Real

/-- A word at the front of a text, in any letter case. -/
def hasWord (word : String) (s : List Char) : Bool :=
  (s.take word.length).map Char.toLower = word.toList

/-- The exponent after a letter: its value, and how many characters it takes up. -/
def exponent (letter : Char) (s : List Char) : Int × Nat :=
  match s with
  | c :: rest =>
    let signed := rest.head? = some '-' || rest.head? = some '+'
    let digits := (if signed then rest.tail else rest).takeWhile Char.isDigit
    if c.toLower ≠ letter || digits.isEmpty then (0, 0)
    else
      let v : Int := min (decimalOf digits) 100000
      (if rest.head? = some '-' then -v else v, digits.length + if signed then 2 else 1)
  | [] => (0, 0)

/-- A number without its sign in digits of a base, and how many characters it takes up. -/
def digitsAt (p : Precision) (base : Nat) (isDigit : Char → Bool) (letter : Char)
    (s : List Char) : Magnitude × Nat :=
  let whole := s.takeWhile isDigit
  let after := s.drop whole.length
  let fraction := if after.head? = some '.' then after.tail.takeWhile isDigit else []
  if whole.isEmpty && fraction.isEmpty then (.finite 0 0, 0)
  else
    let point := if after.head? = some '.' then fraction.length + 1 else 0
    let (e, n) := exponent letter (after.drop point)
    let value := (whole ++ fraction).foldl (fun v c => base * v + Text.hexValue c) 0
    let scale : Int := if base = 16 then e - 4 * fraction.length else e - fraction.length
    let unit := if base = 16 then 2 else base
    let magnitude := if 0 ≤ scale then .ofQuotient p (value * Nat.pow unit scale.toNat) 1
      else .ofQuotient p value (Nat.pow unit (-scale).toNat)
    (magnitude, whole.length + point + n)

/-- A number without its sign, and how many characters it takes up. -/
def unsigned (p : Precision) (s : List Char) : Magnitude × Nat :=
  if hasWord "infinity" s then (.infinite, 8)
  else if hasWord "inf" s then (.infinite, 3)
  else if hasWord "nan" s then (.notNumber, 3)
  else
    match s with
    | '0' :: x :: rest =>
      let (m, n) := digitsAt p 16 Text.isHexDigit 'p' rest
      if (x = 'x' || x = 'X') && 0 < n then (m, n + 2) else digitsAt p 10 Char.isDigit 'e' s
    | _ => digitsAt p 10 Char.isDigit 'e' s

/-- The number at the front of a text, after white space, and how many characters both take up. -/
def read (p : Precision) (s : List Char) : Real × Nat :=
  let blanks := (s.takeWhile fun c => c = ' ' || ('\t' ≤ c && c ≤ '\r')).length
  let s := s.drop blanks
  let signed := s.head? = some '-' || s.head? = some '+'
  let (magnitude, n) := unsigned p (if signed then s.tail else s)
  if n = 0 then ({ magnitude := .finite 0 0 }, 0)
  else ({ negative := s.head? = some '-', magnitude }, blanks + n + if signed then 1 else 0)

/-- The text of digits with a point in front of the last `places`. -/
def pointed (places : Nat) (point : Bool) (n : Nat) : List Char :=
  let digits := digitsOf n
  let digits := List.replicate (places + 1 - digits.length) '0' ++ digits
  let whole := digits.take (digits.length - places)
  if places = 0 && !point then whole
  else whole ++ '.' :: digits.drop (digits.length - places)

/-- The digits with a number of places after the point; `point` keeps the point in any case. -/
def fixed (places : Nat) (point : Bool) (m : Nat) (e : Int) : List Char :=
  pointed places point (nearestShifted (m * Nat.pow 10 places) 1 e)

/-- The whole number nearest to `m` · 2 ^ `e` · 10 ^ `k`. -/
def scaled (m : Nat) (e k : Int) : Nat :=
  if 0 ≤ k then nearestShifted (m * Nat.pow 10 k.toNat) 1 e
  else nearestShifted m (Nat.pow 10 (-k).toNat) e

/-- The decimal exponent of a number that is not zero, and its first `places` + 1 digits. -/
def leading (places : Nat) (m : Nat) (e : Int) : Int × Nat :=
  let guess : Int := ((m.log2 + e) * 30103) / 100000
  let low := guess - 1
  let fits (x : Int) : Bool :=
    let n := scaled m e (places - x)
    Nat.pow 10 places ≤ n && n < Nat.pow 10 (places + 1)
  match ([low, low + 1, low + 2, low + 3] : List Int).find? fits with
  | some x => (x, scaled m e (places - x))
  | none => (0, 0)

/-- An exponent with its sign and at least two digits. -/
def exponentText (x : Int) : List Char :=
  let digits := digitsOf x.natAbs
  (if x < 0 then '-' else '+') :: (if digits.length < 2 then '0' :: digits else digits)

/-- One digit in front of the point, a number of places after it, and an exponent. -/
def scientific (places : Nat) (point : Bool) (m : Nat) (e : Int) : List Char :=
  let (x, digits) := if m = 0 then (0, 0) else leading places m e
  pointed places point digits ++ 'e' :: exponentText x

/-- A text without the zeros at the end of its fraction. -/
def dropZeros (s : List Char) : List Char :=
  if s.contains '.' then
    let kept := s.reverse.dropWhile (· = '0')
    (if kept.head? = some '.' then kept.tail else kept).reverse
  else s

/-- As many digits as asked for, with an exponent only if it is large or small. `point` keeps the
zeros at the end. -/
def shorter (digits : Nat) (point : Bool) (m : Nat) (e : Int) : List Char :=
  let digits := max digits 1
  let (x, _) := if m = 0 then (0, 0) else leading (digits - 1) m e
  let short (s : List Char) : List Char := if point then s else dropZeros s
  if -4 ≤ x && x < digits then short (fixed ((digits : Int) - 1 - x).toNat point m e)
  else
    let s := scientific (digits - 1) point m e
    short (s.takeWhile (· ≠ 'e')) ++ s.dropWhile (· ≠ 'e')

/-- Hexadecimal digits, as many as needed if their number is not given, and a binary exponent. -/
def hexadecimal (p : Precision) (places : Option Nat) (point : Bool) (m : Nat) (e : Int) :
    List Char :=
  let lift := if m = 0 then 0 else p.bits - 1 - m.log2
  let m := m <<< lift
  let tail := (p.bits - p.leading) / 4
  let kept := places.getD tail
  let value := if kept < tail then nearest m (1 <<< (4 * (tail - kept)))
    else m <<< (4 * (kept - tail))
  let digits := Nat.toDigits 16 value
  let digits := List.replicate (kept + 1 - digits.length) '0' ++ digits
  let whole := digits.take (digits.length - kept)
  let fraction := digits.drop (digits.length - kept)
  let fraction := if places.isNone then (fraction.reverse.dropWhile (· = '0')).reverse else fraction
  let x : Int := if m = 0 then 0 else e - lift + p.bits - p.leading
  '0' :: 'x' :: whole ++ (if fraction.isEmpty && !point then [] else '.' :: fraction) ++ 'p' ::
    (if x < 0 then '-' else '+') :: digitsOf x.natAbs

end Real

end CrossCheck.Host
