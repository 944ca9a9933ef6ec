import CrossCheck.Host.Octets

/-!
# Names in messages

A message sets off the name of a file or an argument, so that it is seen where the name ends and
what is in it.

* `Quoted.word` : a name so that the shell takes it for that name, in quotes only where they are
  needed
* `Quoted.path` : the same, always in quotes
* `Quoted.argument` : an argument in quotes, with escapes
-/

namespace CrossCheck.Host.Quoted

/-- An octet that cannot be shown. -/
def isHidden (c : Char) : Bool :=
  c < ' ' || '~' < c

/-- The escape of an octet that cannot be shown. -/
def escape (c : Char) : List Char :=
  let letters := [('\n', 'n'), ('\t', 't'), ('\r', 'r'), ('\x07', 'a'), ('\x08', 'b'),
    ('\x0b', 'v'), ('\x0c', 'f')]
  match letters.lookup c with
  | some letter => ['\\', letter]
  | none =>
    let digits := Nat.toDigits 8 c.toNat
    '\\' :: List.replicate (3 - digits.length) '0' ++ digits

/-- An octet that means nothing to the shell wherever it stands. -/
def isPlain (c : Char) : Bool :=
  c.isAlphanum || "%+,-./:]_".toList.contains c

/-- The shell takes a name for itself without quotes. -/
def isSafe (s : List Char) : Bool :=
  s ≠ ['\x7b'] && s ≠ ['\x7d'] && s.head? ≠ some '#' && s.head? ≠ some '~' &&
    s.all fun c => isPlain c || "#@~\x7b\x7d".toList.contains c

/-- What stands between the quotes of a name. -/
def inside (escaping : Bool) : List Char → List Char
  | [] => []
  | c :: s =>
    if isHidden c then
      (if escaping then [] else ['\'', '$', '\'']) ++ escape c ++ inside true s
    else
      (if escaping then ['\'', '\''] else []) ++
        (if c = '\'' then "'\\''".toList else [c]) ++ inside false s

/-- A name in quotes. -/
def path (s : List Char) : List Char :=
  if s.contains '\'' && s.all fun c => isPlain c || c = ' ' || c = '\'' then '"' :: s ++ ['"']
  else '\'' :: inside false s ++ ['\'']

/-- A name in quotes if it needs them. -/
def word (s : List Char) : List Char :=
  if !s.isEmpty && isSafe s then s else path s

/-- A name in a message, in quotes if it needs them or if there is a colon in it, which might be
taken for the one behind the name. -/
def wordOf (s : String) : String :=
  .ofList (if s.toList.contains ':' then path s.toList else word s.toList)

/-- A name in a message, always in quotes. -/
def pathOf (s : String) : String :=
  .ofList (path s.toList)

/-- An argument in a message. -/
def argument (s : String) : String :=
  "'" ++ .ofList (s.toList.flatMap fun c =>
    if c = '\'' || c = '\\' then ['\\', c] else if isHidden c then escape c else [c]) ++ "'"

end CrossCheck.Host.Quoted
