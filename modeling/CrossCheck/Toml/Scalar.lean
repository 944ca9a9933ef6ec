import CrossCheck.Text.Hex
import CrossCheck.Text.Whitespace
import CrossCheck.Toml.Value

/-!
# TOML scalars

Booleans, numbers and times: the values that are written without quotes or brackets. Each is a
format of its own, and a text that fits none is no value.
-/

namespace CrossCheck.Toml

/-- A character that is a thing of its own, or that ends what stands before it. -/
def isDelimiter (c : Char) : Bool :=
  ".=,[]\x7b\x7d \t#\r\n".toList.contains c

/-- A character of a scalar: dots join what they stand between. -/
def isScalarChar (c : Char) : Bool :=
  c = '.' || !isDelimiter c

namespace Scalar

/-- The text without a sign at its front. -/
def unsigned : List Char → List Char
  | '+' :: s => s
  | '-' :: s => s
  | s => s

/-- The two parts of a text around the first character that satisfies `p`, the second one missing
if there is no such character. -/
def cut (p : Char → Bool) (s : List Char) : List Char × Option (List Char) :=
  match s.dropWhile fun c => !p c with
  | [] => (s, none)
  | _ :: rest => (s.takeWhile fun c => !p c, some rest)

/-! ### Numbers

A number is looked at only as far as it takes to tell what it is. In a whole number with underscores
the characters beside an underscore have to be digits, of base sixteen even, and nothing else is
asked of what follows the first underscore.
-/

/-- Underscores stand alone between digits. A group of one character in front of an underscore may
be a sign. -/
def isSpaced (digit : Char → Bool) (s : List Char) : Bool :=
  let groups := s.splitOn '_'
  !s.contains '_' ||
    groups.all (fun g => !g.isEmpty) &&
      groups.tail.all (fun g => g.head?.any digit) &&
      groups.dropLast.all fun g => g.length = 1 || g.getLast?.any digit

/-- Digits, of which there is at least one, and underscores. -/
def hasDigits (s : List Char) : Bool :=
  s.any Char.isDigit && s.all fun c => c.isDigit || c = '_'

/-- Digits that do not start with a zero, unless there is only one. -/
def isWhole (s : List Char) : Bool :=
  hasDigits s && ((s.filter Char.isDigit).length = 1 || s.head? ≠ some '0')

/-- A number without its sign that has a fraction or an exponent. -/
def isFractional (s : List Char) : Bool :=
  let (mantissa, exponent) := cut (fun c => c = 'e' || c = 'E') s
  let (whole, fraction) := cut (· = '.') mantissa
  isWhole whole && fraction.all hasDigits && exponent.all fun e => hasDigits (unsigned e)

/-- A number in base ten that is `written` with the sign that is missing from `s`. -/
def isDecimal (written s : List Char) : Bool :=
  let rest := s.dropWhile Char.isDigit
  if rest.any fun c => c = '.' || c = 'e' || c = 'E' then
    isFractional s && isSpaced Char.isDigit written
  else
    !s.isEmpty && (rest.isEmpty || rest.head? = some '_') && !rest.contains ' ' &&
      (s = ['0'] || s.head? ≠ some '0') && isSpaced Text.isHexDigit written

/-- Digits of another base than ten, perhaps none. -/
def isBased (digit : Char → Bool) (s : List Char) : Bool :=
  s.all (fun c => digit c || c = '_') && isSpaced digit s

/-- A number. One in another base than ten has no sign. -/
def isNumber (s : List Char) : Bool :=
  match s with
  | '0' :: 'x' :: digits => isBased Text.isHexDigit digits
  | '0' :: 'o' :: digits => isBased (fun c => '0' ≤ c && c ≤ '7') digits
  | '0' :: 'b' :: digits => isBased (fun c => c = '0' || c = '1') digits
  | _ =>
    unsigned s = "inf".toList || unsigned s = "nan".toList || s.head? ≠ some '_' &&
      isDecimal s (unsigned s)

/-! ### Times -/

/-- The number that exactly `n` decimal digits stand for. -/
def fixed? (n : Nat) (s : List Char) : Option Nat :=
  if s.length = n && s.all Char.isDigit then
    some (s.foldl (fun v c => 10 * v + (c.toNat - '0'.toNat)) 0)
  else none

/-- A number of `n` digits between two bounds. -/
def isBetween (n low high : Nat) (s : List Char) : Bool :=
  (fixed? n s).any fun v => low ≤ v && v ≤ high

/-- The number of days in a month. -/
def daysIn (year month : Nat) : Nat :=
  if month = 2 then
    if year % 4 = 0 ∧ (year % 100 ≠ 0 ∨ year % 400 = 0) then 29 else 28
  else if month = 4 ∨ month = 6 ∨ month = 9 ∨ month = 11 then 30
  else 31

/-- A date such as `1979-05-27`. -/
def isDate (s : List Char) : Bool :=
  match s.splitOn '-' with
  | [year, month, day] =>
    isBetween 4 0 9999 year && isBetween 2 1 12 month &&
      isBetween 2 1 (daysIn ((fixed? 4 year).getD 0) ((fixed? 2 month).getD 0)) day
  | _ => false

/-- The seconds of a time, with or without a fraction. -/
def isSeconds (s : List Char) : Bool :=
  let (whole, fraction) := cut (· = '.') s
  isBetween 2 0 60 whole && fraction.all fun f => !f.isEmpty && f.all Char.isDigit

/-- A time of day such as `07:32` or `07:32:00.5`. -/
def isTimeOfDay (s : List Char) : Bool :=
  match s.splitOn ':' with
  | [hour, minute] => isBetween 2 0 23 hour && isBetween 2 0 59 minute
  | [hour, minute, second] =>
    isBetween 2 0 23 hour && isBetween 2 0 59 minute && isSeconds second
  | _ => false

/-- A time of day that may be followed by its distance from universal time, as in `07:32:00Z` and
`07:32:00-07:00`. -/
def isZonedTime (s : List Char) : Bool :=
  if s.getLast? = some 'Z' || s.getLast? = some 'z' then isTimeOfDay s.dropLast
  else
    let (time, offset) := cut (fun c => c = '+' || c = '-') s
    isTimeOfDay time && offset.all fun o => o.length = 5 && isTimeOfDay o

/-- A date, a time of day, or a date and a time of day. -/
def isTime (s : List Char) : Bool :=
  isDate s || isTimeOfDay s ||
    (isDate (s.take 10) && (s[10]?.any fun c => c = 'T' || c = 't' || c = ' ') &&
      isZonedTime (s.drop 11))

/-- The value that a run of characters stands for. -/
def value? (s : List Char) : Option Value :=
  if s = "true".toList then some (.boolean true)
  else if s = "false".toList then some (.boolean false)
  else if isNumber s then some (.number s)
  else if isTime s then some (.time s)
  else none

/-- A character that starts a scalar, or goes on with one after blanks. -/
def isStart (c : Char) : Bool :=
  !isDelimiter c && c ≠ '"' && c ≠ '\''

/-- The length of the scalar at the front of a text. There may be blanks in it, as between a date
and a time of day. -/
def length (s : List Char) : Nat :=
  let first := (s.takeWhile isScalarChar).length
  let gap := ((s.drop first).takeWhile Text.isBlank).length
  let goesOn := 0 < gap && (s.drop (first + gap)).head?.any isStart
  if _h : 0 < first ∧ first ≤ s.length ∧ goesOn = true then
    first + gap + length (s.drop (first + gap))
  else first
  termination_by s.length
  decreasing_by simp only [List.length_drop]; omega

end Scalar

end CrossCheck.Toml
