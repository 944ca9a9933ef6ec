import CrossCheck.Host.Tool.Escape
import CrossCheck.Host.Tool.Quoted
import CrossCheck.Host.Tool.Real

/-!
# Formats

A format is text with directives, each of which takes an argument and says how it is written. A
format is used again and again until no argument is left. The shell and the tool `printf` know
slightly different formats, and a `Dialect` says which.

* `Dialect.pieces` : the pieces of a format
* `Dialect.print` : a format with arguments filled in
-/

namespace CrossCheck.Host

/-- A kind of format. -/
structure Dialect where
  format : Escapes
  text : Escapes
  precision : Precision
  /-- The tool's rules hold: letters for the size of a number are passed over, `%q` quotes,
  arguments that no directive takes are an error. -/
  isTool : Bool
  deriving DecidableEq, Repr

/-- The formats of the shell. -/
def Dialect.shell : Dialect := ⟨.shellFormat, .shellText, .double, false⟩

/-- The formats of the tool `printf`. -/
def Dialect.tool : Dialect := ⟨.toolFormat, .toolText, .extended, true⟩

/-- A number in a directive. -/
inductive Count where
  | given (n : Nat)
  /-- The next argument gives the number. -/
  | argument
  deriving DecidableEq, Repr

/-- A place for an argument. -/
structure Directive where
  /-- How it is written in the format. -/
  written : List Char
  flags : List Char
  width : Option Count
  precision : Option Count
  letter : Char
  deriving DecidableEq, Repr

/-- A piece of a format. -/
inductive FormatPiece where
  | text (s : Octets)
  | directive (d : Directive)
  | stop
  /-- The format is wrong from here on. -/
  | refused (message : String)
  deriving DecidableEq, Repr

/-- The number of a directive at the front of a text: the number, and how many characters it takes
up. -/
def count (s : List Char) : Option Count × Nat :=
  if s.head? = some '*' then (some .argument, 1)
  else
    let digits := s.takeWhile Char.isDigit
    (if digits.isEmpty then none else some (.given (decimalOf digits)), digits.length)

/-- The letters of directives. -/
def directiveLetters : List Char :=
  "aAcdeEfFgGiosuxX".toList

/-- The directive is one that the tool takes. -/
def Directive.isProper (d : Directive) : Bool :=
  directiveLetters.contains d.letter &&
    !(d.flags.any (fun f => f = 'I' || f = '\'') && "aAceEosxX".toList.contains d.letter) &&
    !(d.flags.contains '#' && "cdisu".toList.contains d.letter) &&
    !(d.flags.contains '0' && "cs".toList.contains d.letter) &&
    !(d.precision.isSome && d.letter = 'c')

namespace Dialect

/-- Reads what follows a percent sign: the piece, and how many characters it takes up. -/
def directive (k : Dialect) (s : List Char) : FormatPiece × Nat :=
  let isFlag (c : Char) : Bool := "#-+ 0".toList.contains c || (k.isTool && (c = 'I' || c = '\''))
  let flags := s.takeWhile isFlag
  let (width, n₁) := count (s.drop flags.length)
  let used := flags.length + n₁
  let (precision, n₂) := match s.drop used with
    | '.' :: rest =>
      let (p, n) := count rest
      (some (p.getD (.given 0)), n + 1)
    | _ => (none, 0)
  let used := used + n₂
  let sizes := if k.isTool then ((s.drop used).takeWhile "lLhjtz".toList.contains).length else 0
  let used := used + sizes
  match s.drop used with
  | [] =>
    (if k.isTool then
      .refused ("%" ++ .ofList (s.take used) ++ ": invalid conversion specification")
    else .refused "missing format character", used)
  | letter :: _ =>
    let d : Directive := { written := '%' :: s.take (used + 1), flags, width, precision, letter }
    let isPlain := used = 0 && (letter = 'b' || letter = 'q')
    if k.isTool then
      (if isPlain || d.isProper then .directive d
      else .refused (.ofList d.written ++ ": invalid conversion specification"), used + 1)
    else
      (if letter = 'b' || directiveLetters.contains letter then .directive d
      else .refused (.ofList d.written ++ ": invalid directive"), used + 1)

/-- The pieces of a format. -/
def pieces (k : Dialect) (s : List Char) : List FormatPiece :=
  match s with
  | [] => []
  | c :: s =>
    if c = '\\' then
      match k.format.first s with
      | .stop => [.stop]
      | .refused message => [.refused message]
      | .text t used => .text t :: pieces k (s.drop used)
    else if c ≠ '%' then .text [c] :: pieces k s
    else if s.head? = some '%' then .text ['%'] :: pieces k s.tail
    else
      let (piece, used) := k.directive s
      piece :: pieces k (s.drop used)
  termination_by s.length
  decreasing_by all_goals simp only [List.length_cons, List.length_drop, List.length_tail]; omega

end Dialect

/-! ### Fields -/

/-- How a field is filled up. -/
structure Layout where
  flags : List Char
  width : Nat
  precision : Option Nat
  deriving DecidableEq, Repr

namespace Layout

/-- A text in a field. -/
def pad (l : Layout) (s : Octets) : Octets :=
  let blanks := List.replicate (l.width - s.length) ' '
  if l.flags.contains '-' then s ++ blanks else blanks ++ s

/-- A number in a field: what stands in front of its digits, and the digits. -/
def number (l : Layout) (zeros : Bool) (sign digits : List Char) : Octets :=
  if zeros && l.flags.contains '0' && !l.flags.contains '-' then
    sign ++ List.replicate (l.width - sign.length - digits.length) '0' ++ digits
  else l.pad (sign ++ digits)

/-- The sign of a number. -/
def sign (l : Layout) (negative : Bool) : List Char :=
  if negative then ['-']
  else if l.flags.contains '+' then ['+']
  else if l.flags.contains ' ' then [' ']
  else []

/-- Digits, of which there are at least as many as the precision says. -/
def precise (l : Layout) (n : Nat) (digits : List Char) : List Char :=
  match l.precision with
  | none => digits
  | some p =>
    if p = 0 && n = 0 then [] else List.replicate (p - digits.length) '0' ++ digits

/-- A whole number in decimal digits. -/
def whole (l : Layout) (n : Int) : Octets :=
  l.number l.precision.isNone (l.sign (n < 0)) (l.precise n.natAbs (digitsOf n.natAbs))

/-- A whole number without a sign. -/
def unsigned (l : Layout) (letter : Char) (n : Nat) : Octets :=
  let sharp := l.flags.contains '#'
  match letter with
  | 'o' =>
    let digits := l.precise n (Nat.toDigits 8 n)
    let digits := if sharp && digits.head? ≠ some '0' then '0' :: digits else digits
    l.number l.precision.isNone [] digits
  | 'x' =>
    let mark := if sharp && n ≠ 0 then ['0', 'x'] else []
    l.number l.precision.isNone mark (l.precise n (Nat.toDigits 16 n))
  | 'X' =>
    let mark := if sharp && n ≠ 0 then ['0', 'X'] else []
    l.number l.precision.isNone mark (l.precise n ((Nat.toDigits 16 n).map Char.toUpper))
  | _ => l.number l.precision.isNone [] (l.precise n (digitsOf n))

/-- A real number. -/
def real (l : Layout) (p : Precision) (letter : Char) (x : Real) : Octets :=
  let point := l.flags.contains '#'
  let cased (s : List Char) : List Char := if letter.isUpper then s.map Char.toUpper else s
  let sign := l.sign x.negative
  match x.magnitude with
  | .infinite => l.pad (sign ++ cased "inf".toList)
  | .notNumber => l.pad (sign ++ cased "nan".toList)
  | .finite m e =>
    let digits := match letter.toLower with
      | 'f' => Real.fixed (l.precision.getD 6) point m e
      | 'e' => Real.scientific (l.precision.getD 6) point m e
      | 'g' => Real.shorter (l.precision.getD 6) point m e
      | _ => Real.hexadecimal p l.precision point m e
    match cased digits with
    | '0' :: x :: rest =>
      if letter.toLower = 'a' then l.number true (sign ++ ['0', x]) rest
      else l.number true sign ('0' :: x :: rest)
    | digits => l.number true sign digits

end Layout

/-! ### Arguments -/

/-- What is left while a format is filled. -/
structure Printing where
  arguments : List String
  /-- What was written, in pieces, the last one first. -/
  out : List Octets := []
  /-- Messages, the last one first. -/
  messages : List String := []
  status : Nat := 0
  stopped : Bool := false
  /-- Something could not be written. -/
  broken : Bool := false

namespace Printing

/-- Writes a text. -/
def write (x : Printing) (s : Octets) : Printing :=
  { x with out := s :: x.out }

/-- Notes that an argument is not in order. -/
def warn (x : Printing) (message : String) : Printing :=
  { x with messages := message :: x.messages, status := 1 }

/-- Notes what is odd about an argument that is in order. -/
def remark (x : Printing) (message : String) : Printing :=
  { x with messages := message :: x.messages }

/-- Gives up. -/
def giveUp (x : Printing) (message : String) (status : Nat) : Printing :=
  { x with messages := message :: x.messages, status, stopped := true }

/-- Takes the next argument. -/
def next? (x : Printing) : Option String × Printing :=
  (x.arguments.head?, { x with arguments := x.arguments.tail })

end Printing

/-- The number at the front of a text, in base 16 after `0x` and in base 8 after `0`: whether it is
negative, its value, and how many characters it takes up. -/
def wholeAt (s : List Char) : Bool × Nat × Nat :=
  let blanks := (s.takeWhile fun c => c = ' ' || ('\t' ≤ c && c ≤ '\r')).length
  let t := s.drop blanks
  let signed := t.head? = some '-' || t.head? = some '+'
  let digits := if signed then t.tail else t
  let value (base : Nat) (ds : List Char) : Nat :=
    ds.foldl (fun v c => base * v + Text.hexValue c) 0
  let (n, v) : Nat × Nat := match digits with
    | '0' :: x :: rest =>
      let hex := rest.takeWhile Text.isHexDigit
      if (x = 'x' || x = 'X') && !hex.isEmpty then (hex.length + 2, value 16 hex)
      else
        let octal := digits.takeWhile isOctal
        (octal.length, value 8 octal)
    | _ =>
      let ds := digits.takeWhile Char.isDigit
      (ds.length, value 10 ds)
  if n = 0 then (false, 0, 0)
  else (t.head? = some '-', v, blanks + n + if signed then 1 else 0)

namespace Dialect

/-- Notes what is wrong with a number of which `used` characters were understood. -/
def checked (k : Dialect) (x : Printing) (a : String) (used : Nat) (inRange : Bool) : Printing :=
  let shown := if k.isTool then Quoted.argument a else a
  if used < a.length then
    if used = 0 then
      x.warn (shown ++ ": expected " ++ (if k.isTool then "a " else "") ++ "numeric value")
    else
      x.warn (shown ++
        if k.isTool then ": value not completely converted" else ": not completely converted")
  else if inRange then x
  else x.warn (shown ++ ": Numerical result out of range")

/-- The code of the character after a quote in an argument. -/
def characterCode? (k : Dialect) (x : Printing) (a : String) : Option (Nat × Printing) :=
  match a.toList with
  | '\'' :: rest | '"' :: rest =>
    match rest with
    | [] => if k.isTool then none else some (0, x)
    | c :: more =>
      if k.isTool && !more.isEmpty then
        some (c.toNat, x.remark ("warning: " ++ .ofList more ++
          ": character(s) following character constant have been ignored"))
      else some (c.toNat, x)
  | _ => none

/-- The next argument as a whole number of 64 bits. -/
def signedArgument (k : Dialect) (x : Printing) : Int × Printing :=
  match x.next? with
  | (none, x) => (0, x)
  | (some a, x) =>
    match k.characterCode? x a with
    | some (n, x) => (n, x)
    | none =>
      let (negative, v, used) := wholeAt a.toList
      let limit := if negative then 1 <<< 63 else 1 <<< 63 - 1
      let n : Int := if negative then -(min v limit : Nat) else (min v limit : Nat)
      (n, k.checked x a used (v ≤ limit))

/-- The next argument as a whole number of 64 bits without a sign. A negative one counts from the
other end. -/
def unsignedArgument (k : Dialect) (x : Printing) : Nat × Printing :=
  match x.next? with
  | (none, x) => (0, x)
  | (some a, x) =>
    match k.characterCode? x a with
    | some (n, x) => (n, x)
    | none =>
      let (negative, v, used) := wholeAt a.toList
      let bound := 1 <<< 64
      let n := if bound ≤ v then bound - 1 else if negative then (bound - v) % bound else v
      (n, k.checked x a used (v < bound))

/-- The next argument as a real number. -/
def realArgument (k : Dialect) (x : Printing) : Real × Printing :=
  match x.next? with
  | (none, x) => ({ magnitude := .finite 0 0 }, x)
  | (some a, x) =>
    match k.characterCode? x a with
    | some (n, x) => ({ magnitude := .finite n 0 }, x)
    | none =>
      let (r, used) := Real.read k.precision a.toList
      let overflows := r.magnitude = .infinite && a.toList.any Char.isDigit
      (r, k.checked x a used !overflows)

/-- The least number that is too large for a width. -/
def widthLimit : Nat := 1 <<< 31 - 1

/-- The number that a directive asks for. One from an argument has to fit into 32 bits: the tool
gives up with what it calls the number, and the shell takes the low bits. -/
def counted (k : Dialect) (x : Printing) (what : String) : Option Count → Option Int × Printing
  | none => (none, x)
  | some (.given n) => (some n, x)
  | some .argument =>
    let given := x.arguments.head?
    let (n, x) := k.signedArgument x
    if !k.isTool then (some (Int.bmod n (1 <<< 32)), x)
    else if -(1 <<< 31 : Nat) ≤ n && n < (1 <<< 31 : Nat) then (some n, x)
    else if what = "precision" && n < 0 then (none, x)
    else (none, x.giveUp ("invalid " ++ what ++ ": " ++ Quoted.argument (given.getD "")) 1)

/-- A field of that layout is too long to be written. -/
def isTooLong (l : Layout) (letter : Char) : Bool :=
  widthLimit ≤ l.width ||
    l.precision.any fun p => widthLimit < p || (p = widthLimit && letter ≠ 's')

/-- Stops as an escape says. For the tool all is well then. -/
def stop (k : Dialect) (x : Printing) : Printing :=
  { x with stopped := true, status := if k.isTool then 0 else x.status }

/-- Fills a directive. -/
def fill (k : Dialect) (x : Printing) (d : Directive) : Printing :=
  let (width, x) := k.counted x "field width" d.width
  let (precision, x) := if x.stopped then (none, x) else k.counted x "precision" d.precision
  let flags := if width.any (· < 0) then '-' :: d.flags else d.flags
  let l : Layout :=
    { flags, width := (width.getD 0).natAbs
      precision := (precision.filter (0 ≤ ·)).map Int.toNat }
  let cut (s : Octets) : Octets := (l.precision.map s.take).getD s
  if x.stopped then x
  else if isTooLong l d.letter then
    if k.isTool then { x with broken := true, arguments := x.arguments.tail }
    else x.giveUp "xvsnprintf failed" 2
  else
  match d.letter with
  | 's' =>
    let (a, x) := x.next?
    x.write (l.pad (cut (a.getD "").toList))
  | 'c' =>
    let (a, x) := x.next?
    x.write (l.pad [((a.getD "").toList.head?).getD '\x00'])
  | 'b' =>
    let (a, x) := x.next?
    let e := k.text.expand (a.getD "").toList
    let x := x.write (l.pad (cut e.text))
    match e.refusal with
    | some message => x.giveUp message 1
    | none => if e.stops then k.stop x else x
  | 'q' =>
    let (a, x) := x.next?
    x.write (a.elim [] fun a => Quoted.word a.toList)
  | 'd' | 'i' =>
    let (n, x) := k.signedArgument x
    x.write (l.whole n)
  | 'o' | 'u' | 'x' | 'X' =>
    let (n, x) := k.unsignedArgument x
    x.write (l.unsigned d.letter n)
  | _ =>
    let (r, x) := k.realArgument x
    x.write (l.real k.precision d.letter r)

/-- Fills the pieces of a format once. -/
def fillAll (k : Dialect) (x : Printing) : List FormatPiece → Printing
  | [] => x
  | p :: ps =>
    if x.stopped then x
    else
      match p with
      | .text s => fillAll k (x.write s) ps
      | .directive d => fillAll k (k.fill x d) ps
      | .stop => k.stop x
      | .refused message => x.giveUp message (if k.isTool then 1 else 2)

/-- Fills the pieces of a format again and again until no argument is left, at most `times` times.
-/
def fillAgain (k : Dialect) (ps : List FormatPiece) : (times : Nat) → Printing → Printing
  | 0, x => x
  | times + 1, x =>
    let before := x.arguments.length
    let x := k.fillAll x ps
    if x.stopped || x.arguments.isEmpty then x
    else if x.arguments.length = before then
      match k.isTool, x.arguments with
      | true, a :: _ =>
        x.remark ("warning: ignoring excess arguments, starting with " ++ Quoted.argument a)
      | _, _ => x
    else fillAgain k ps times x

/-- A format with arguments filled in. -/
def print (k : Dialect) (format : String) (arguments : List String) : Printing :=
  let x := k.fillAgain (k.pieces format.toList) (arguments.length + 1) { arguments }
  if x.broken then x.warn "write error" else x

end Dialect

/-- All that was written. -/
def Printing.text (x : Printing) : Octets :=
  x.out.reverse.flatten

end CrossCheck.Host
