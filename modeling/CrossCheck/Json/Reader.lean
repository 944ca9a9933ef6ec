import CrossCheck.Json

/-!
# Reading JSON

The JSON grammar, except that numbers are whole: white space may stand around values and
punctuation, and a string may have every escape. Each reader takes what it reads off the front of a
text and gives what is left.

* `Json.text?` : strings
* `Json.value?` : values, `items?` and `fields?` their parts
* `Json.parse?` : a value that is the whole text
-/

namespace CrossCheck.Json

/-- A character that may stand between the parts of a value. -/
def isSpace (c : Char) : Bool :=
  c = ' ' || c = '\t' || c = '\n' || c = '\r'

/-- The text without the white space at its front. -/
def skipSpace (s : List Char) : List Char :=
  s.dropWhile isSpace

/-! ### Strings -/

/-- The character that a letter after a backslash stands for. -/
def shortEscape? : Char → Option Char
  | '"' => some '"'
  | '\\' => some '\\'
  | '/' => some '/'
  | 'b' => some '\x08'
  | 'f' => some '\x0c'
  | 'n' => some '\n'
  | 'r' => some '\r'
  | 't' => some '\t'
  | _ => none

/-- The number that four hexadecimal digits stand for. -/
def unit? (digits : List Char) : Option Nat :=
  if digits.all Text.isHexDigit then some (Text.hexNumber digits) else none

/-- The character that two surrogates stand for. -/
def pair? (high low : Nat) : Option Char :=
  if 0xd800 ≤ high ∧ high < 0xdc00 ∧ 0xdc00 ≤ low ∧ low < 0xe000 then
    some (.ofNat (0x10000 + 0x400 * (high - 0xd800) + (low - 0xdc00)))
  else none

/-- The character of a code that is no surrogate. -/
def single? (code : Nat) : Option Char :=
  if code.isValidChar then some (.ofNat code) else none

/-- Reads a string after its opening quote. -/
def text? : List Char → Option (List Char × List Char)
  | [] => none
  | '"' :: s => some ([], s)
  | '\\' :: 'u' :: a :: b :: c :: d :: s => do
    let first ← unit? [a, b, c, d]
    match single? first with
    | some x =>
      let (xs, rest) ← text? s
      return (x :: xs, rest)
    | none =>
      match s with
      | '\\' :: 'u' :: a :: b :: c :: d :: s =>
        let x ← pair? first (← unit? [a, b, c, d])
        let (xs, rest) ← text? s
        return (x :: xs, rest)
      | _ => none
  | '\\' :: c :: s => do
    let x ← shortEscape? c
    let (xs, rest) ← text? s
    return (x :: xs, rest)
  | c :: s =>
    if c < ' ' || c = '\\' then none
    else do
      let (xs, rest) ← text? s
      return (c :: xs, rest)

/-! ### Numbers -/

/-- Reads a whole number that is not negative. It has no leading zero. -/
def natural? (s : List Char) : Option (Nat × List Char) :=
  let digits := s.takeWhile Char.isDigit
  if digits = [] ∨ (digits.head? = some '0' ∧ digits.length > 1) then none
  else some (digits.foldl (fun v c => 10 * v + Text.hexValue c) 0, s.dropWhile Char.isDigit)

/-- Reads a whole number. -/
def integer? : List Char → Option (Int × List Char)
  | '-' :: s => (natural? s).map fun (n, rest) => (-n, rest)
  | s => (natural? s).map fun (n, rest) => (n, rest)

/-! ### Values -/

/-- Takes a text off the front of another one. -/
def literal? (word s : List Char) : Option (List Char) :=
  if word.isPrefixOf s then some (s.drop word.length) else none

/-- Reads a value without parts. -/
def scalar? (s : List Char) : Option (Json × List Char) :=
  match s with
  | '"' :: s => (text? s).map fun (t, rest) => (text (.ofList t), rest)
  | 'n' :: _ => (literal? "null".toList s).map fun rest => (null, rest)
  | 't' :: _ => (literal? "true".toList s).map fun rest => (bool true, rest)
  | 'f' :: _ => (literal? "false".toList s).map fun rest => (bool false, rest)
  | s => (integer? s).map fun (n, rest) => (number n, rest)

mutual

/-- Reads a value. -/
def value? : (fuel : Nat) → List Char → Option (Json × List Char)
  | 0, _ => none
  | fuel + 1, s =>
    match skipSpace s with
    | '[' :: s =>
      match skipSpace s with
      | ']' :: rest => some (list [], rest)
      | s => (items? fuel s).map fun (items, rest) => (list items, rest)
    | '{' :: s =>
      match skipSpace s with
      | '}' :: rest => some (object [], rest)
      | s => (fields? fuel s).map fun (fields, rest) => (object fields, rest)
    | s => scalar? s

/-- Reads the items of a list, at least one, and the bracket that closes it. -/
def items? : (fuel : Nat) → List Char → Option (List Json × List Char)
  | 0, _ => none
  | fuel + 1, s => do
    let (item, s) ← value? fuel s
    match skipSpace s with
    | ',' :: s =>
      let (items, rest) ← items? fuel s
      return (item :: items, rest)
    | ']' :: rest => return ([item], rest)
    | _ => none

/-- Reads the fields of an object, at least one, and the brace that closes it. -/
def fields? : (fuel : Nat) → List Char → Option (List (String × Json) × List Char)
  | 0, _ => none
  | fuel + 1, s =>
    match skipSpace s with
    | '"' :: s => do
      let (name, s) ← text? s
      let s ← literal? [':'] (skipSpace s)
      let (value, s) ← value? fuel s
      match skipSpace s with
      | ',' :: s =>
        let (fields, rest) ← fields? fuel s
        return ((.ofList name, value) :: fields, rest)
      | '}' :: rest => return ([(.ofList name, value)], rest)
      | _ => none
    | _ => none

end

/-- The value that a text is, with white space around it. Two nested readers in a row take at least
one character, which bounds the fuel. -/
def parse? (s : List Char) : Option Json :=
  match value? (2 * s.length + 2) s with
  | some (j, rest) => if (skipSpace rest).isEmpty then some j else none
  | none => none

/-- The value of the first field of a name. -/
def field? (name : String) : Json → Option Json
  | object fields => fields.lookup name
  | _ => none

/-- The string that a value is. -/
def string? : Json → Option String
  | text s => some s
  | _ => none

/-- The items of a value that is a list; any other value has none. -/
def items : Json → List Json
  | list js => js
  | _ => []

end CrossCheck.Json
