import CrossCheck.Host.Tool.Call
import CrossCheck.Host.Tool.Quoted

/-!
# The tools `cat` and `head`
-/

namespace CrossCheck.Host

/-! ### Whole files -/

/-- How `cat` shows its lines. -/
structure LineView where
  numbers : Bool := false
  /-- Only lines that are not empty are numbered. -/
  numbersFilled : Bool := false
  ends : Bool := false
  squeezed : Bool := false
  tabs : Bool := false
  /-- Controls and octets outside ASCII are shown. -/
  controls : Bool := false

/-- An octet as `cat` shows it. -/
def shownOctet (v : LineView) (c : Char) : List Char :=
  if c = '\t' then if v.tabs then ['^', 'I'] else [c]
  else if !v.controls || c = '\n' then [c]
  else
    let low (c : Char) : List Char :=
      if c < ' ' then ['^', .ofNat (c.toNat + 64)] else if c = '\x7f' then ['^', '?'] else [c]
    if c < '\u0080' then low c else 'M' :: '-' :: low (.ofNat (c.toNat - 128))

/-- A number in front of a line. -/
def lineNumber (n : Nat) : List Char :=
  let digits := digitsOf n
  List.replicate (6 - digits.length) ' ' ++ digits ++ ['\t']

/-- A line as `cat` shows it. -/
def shownLine (v : LineView) (line : Octets) : List Char :=
  if line.getLast? = some '\n' then
    let text := line.dropLast
    let carriage := v.ends && !v.controls && text.getLast? = some '\r'
    (if carriage then text.dropLast.flatMap (shownOctet v) ++ ['^', 'M']
      else text.flatMap (shownOctet v)) ++ (if v.ends then ['$', '\n'] else ['\n'])
  else line.flatMap (shownOctet v)

/-- Lines as `cat` shows them; `number` is that of the last numbered one, and `empty` says that the
line before was empty. -/
def shownLines (v : LineView) (number : Nat) (empty : Bool) : List Octets → List Char
  | [] => []
  | line :: lines =>
    let isEmpty := line = ['\n']
    if v.squeezed && empty && isEmpty then shownLines v number true lines
    else if v.numbers && !(v.numbersFilled && isEmpty) then
      lineNumber (number + 1) ++ shownLine v line ++ shownLines v (number + 1) isEmpty lines
    else shownLine v line ++ shownLines v number isEmpty lines

namespace Call

/-- The options of `cat`. -/
def catForms : List OptionForm :=
  [⟨'b', "number-nonblank", .absent⟩, ⟨'n', "number", .absent⟩, ⟨'s', "squeeze-blank", .absent⟩,
    ⟨'v', "show-nonprinting", .absent⟩, ⟨'E', "show-ends", .absent⟩, ⟨'T', "show-tabs", .absent⟩,
    ⟨'A', "show-all", .absent⟩, ⟨'e', "", .absent⟩, ⟨'t', "", .absent⟩, ⟨'u', "", .absent⟩]

/-- Reads a file, or complains. -/
def readWhole (c : Call) (path : String) : Effect :=
  match c.contents path with
  | .error message => c.complain (Quoted.wordOf path ++ ": " ++ message) 1
  | .ok s =>
    { out := s.content, taken := if s.isInput then s.content.length else 0, tree := c.tree }

/-- What is written of files, one after another. -/
def readingOrder (c : Call) : List String → List (Nat × Octets)
  | [] => []
  | path :: paths =>
    let e := c.readWhole path
    (2, e.err) :: (1, e.out) :: (c.after e).readingOrder paths

/-- Writes files one after another. -/
def cat (c : Call) : Effect :=
  match Options.read catForms c.arguments with
  | .error ⟨fault, _⟩ => c.misuse fault.message 1
  | .ok o =>
    let paths := if o.operands.isEmpty then ["-"] else o.operands
    let last := if c.inputFault = some .closed && paths.contains "-" then
        c.complain ("closing standard input: " ++ InputFault.closed.message) 1
      else c.idle
    let e := (c.eachFile readWhole paths).join last
    let v : LineView :=
      { numbers := o.has 'n' || o.has 'b', numbersFilled := o.has 'b'
        ends := o.has 'A' || o.has 'e' || o.has 'E', squeezed := o.has 's'
        tabs := o.has 'A' || o.has 't' || o.has 'T'
        controls := o.has 'A' || o.has 'e' || o.has 't' || o.has 'v' }
    if o.given.isEmpty then { e with order := some (c.readingOrder paths ++ [(2, last.err)]) }
    else { e with out := shownLines v 0 false (linesOf e.out) }

end Call

/-! ### Beginnings of files -/

/-- What `head` writes of a file. -/
structure Portion where
  inOctets : Bool := false
  /-- All but the last ones. -/
  fromEnd : Bool := false
  count : Nat := 10
  /-- Lines end in NUL. -/
  zero : Bool := false

/-- The lines of octets that end with a mark. -/
def markedLines (mark : Char) (s : Octets) : List Octets :=
  let fields := s.splitOn mark
  fields.dropLast.map (· ++ [mark]) ++ (fields.getLast?.filter fun l => !l.isEmpty).toList

/-- The portion of a text. -/
def Portion.of (p : Portion) (s : Octets) : Octets :=
  if p.inOctets then s.take (if p.fromEnd then s.length - p.count else p.count)
  else
    let lines := markedLines (if p.zero then '\x00' else '\n') s
    (lines.take (if p.fromEnd then lines.length - p.count else p.count)).flatten

/-- The factor of a suffix such as `k` or `MiB`. -/
def suffixFactor? (s : List Char) : Option Nat :=
  match s with
  | [] => some 1
  | ['b'] => some 512
  | letter :: more =>
    let power := [('k', 1), ('K', 1), ('m', 2), ('M', 2), ('G', 3), ('T', 4), ('P', 5), ('E', 6),
      ('Z', 7), ('Y', 8), ('R', 9), ('Q', 10)].lookup letter
    match power, more with
    | some n, [] | some n, ['i', 'B'] => some (Nat.pow 1024 n)
    | some n, ['B'] => some (Nat.pow 1000 n)
    | _, _ => none

/-- A number with a suffix. -/
def scaledNumber? (s : List Char) : Option Nat := do
  let s := s.dropWhile fun c => c = ' ' || ('\t' ≤ c && c ≤ '\r')
  let s := if s.head? = some '+' then s.tail else s
  let digits := s.takeWhile Char.isDigit
  let factor ← suffixFactor? (s.drop digits.length)
  if digits.isEmpty then
    guard (digits.length < s.length)
    return factor
  else return decimalOf digits * factor

namespace Call

/-- The options of `head`. -/
def headForms : List OptionForm :=
  [⟨'c', "bytes", .needed⟩, ⟨'n', "lines", .needed⟩, ⟨'q', "quiet", .absent⟩,
    ⟨'q', "silent", .absent⟩, ⟨'v', "verbose", .absent⟩, ⟨'z', "zero-terminated", .absent⟩]

/-- The portion that an option asks for. -/
def portion? (p : Portion) (g : Given) : Except String Portion :=
  let wanted (inOctets : Bool) (what : String) : Except String Portion :=
    let fromEnd := g.value.toList.head? = some '-'
    let number := if fromEnd then g.value.toList.tail else g.value.toList
    let refusal := "invalid number of " ++ what ++ ": " ++ Quoted.argument (.ofList number)
    match scaledNumber? number with
    | some count =>
      if count < 1 <<< 64 then .ok { p with inOctets, fromEnd, count }
      else .error (refusal ++ ": Value too large for defined data type")
    | none => .error refusal
  match g.letter with
  | 'c' => wanted true "bytes"
  | 'n' => wanted false "lines"
  | 'z' => .ok { p with zero := true }
  | _ => .ok p

/-- An old option such as `-5c`, which may stand first: the options that it stands for. -/
def oldForm? (a : String) : Option (List String) :=
  match a.toList with
  | '-' :: d :: rest =>
    if d.isDigit then
      let digits := (d :: rest).takeWhile Char.isDigit
      let letters := (d :: rest).drop digits.length
      let unit := letters.find? fun l => "bkm".toList.contains l
      let inOctets := letters.any fun l => "cbkm".toList.contains l
      if letters.all fun l => "cbkmlqvz".toList.contains l then
        some ([if inOctets then "-c" else "-n", .ofList (digits ++ unit.toList)] ++
          (letters.filter fun l => l = 'q' || l = 'v' || l = 'z').map fun l => .ofList ['-', l])
      else none
    else none
  | _ => none

/-- Writes the portions of files. If they are `named`, each has a header, with an empty line in
front unless it is the first one. -/
def headFiles (c : Call) (p : Portion) (named first : Bool) : List String → Effect
  | [] => c.idle
  | path :: paths =>
    let shown := if path = "-" then "standard input" else path
    let header : List Char :=
      if named then (if first then [] else ['\n']) ++ ("==> " ++ shown ++ " <==\n").toList else []
    match c.contents path with
    | .error message =>
      let isDirectory := message = "Is a directory"
      if path = "-" || isDirectory then
        let e := c.complain ("error reading " ++ Quoted.pathOf shown ++ ": " ++ message) 1
        { e with out := header }.join (c.headFiles p named false paths)
      else
        (c.complain ("cannot open " ++ Quoted.pathOf path ++ " for reading: " ++ message) 1).join
          (c.headFiles p named first paths)
    | .ok s =>
      let out := p.of s.content
      let e : Effect :=
        { out := header ++ out
          taken := if !s.isInput then 0
            else if p.fromEnd then s.content.length
            else if p.inOctets then out.length
            else c.gone out.length
          tree := c.tree }
      e.join ((c.after e).headFiles p named false paths)

/-- Writes the beginnings of files. -/
def head (c : Call) : Effect :=
  let arguments := match c.arguments with
    | a :: rest => ((oldForm? a).map (· ++ rest)).getD (a :: rest)
    | [] => []
  match Options.read headForms arguments with
  | .error ⟨fault, before⟩ =>
    match before.given.foldlM portion? {}, fault with
    | .error message, _ => c.complain message 1
    | _, .invalid letter =>
      if letter.isDigit then c.misuse ("invalid trailing option -- " ++ .singleton letter) 1
      else c.misuse fault.message 1
    | _, _ => c.misuse fault.message 1
  | .ok o =>
    match o.given.foldlM portion? {} with
    | .error message => c.complain message 1
    | .ok p =>
      let files := if o.operands.isEmpty then ["-"] else o.operands
      let named := match (o.given.filter fun g => g.letter = 'q' || g.letter = 'v').getLast? with
        | some g => g.letter = 'v'
        | none => 1 < files.length
      let e := c.headFiles p named true files
      if c.inputFault = some .closed && files.contains "-" then
        e.join (c.complain ("-: " ++ InputFault.closed.message) 1)
      else e

end Call

end CrossCheck.Host
