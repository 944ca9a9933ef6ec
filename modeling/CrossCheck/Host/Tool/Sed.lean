import CrossCheck.Host.Tool.Call
import CrossCheck.Host.Tool.Sed.Reader

/-!
# The tool `sed`

The lines of the input are taken one after another. A script is carried out for each of them, which
may change the line, and what it makes of the line is written.

* `Sed.Editor` : what there is between two instructions
* `Sed.carryOut` : carries out one instruction
* `Call.sed` : the tool
-/

namespace CrossCheck.Host.Sed

/-- A line, or what a script has made of it. -/
structure Line where
  text : Octets := []
  /-- There was an end of line behind it. -/
  ended : Bool := true
  deriving DecidableEq, Repr

/-- A place that lines are written to. -/
structure Sink where
  /-- What was written, in pieces, the last one first. -/
  pieces : List Octets := []
  /-- The end of the last line has not been written. -/
  lacksEnd : Bool := false

/-- Something that is written at the end of a cycle. -/
inductive Appended where
  | text (s : Octets)
  | file (path : String)

/-- How far a range of lines is. -/
inductive Range where
  | outside
  | inside (last : Option Nat)
  /-- It came to its end. -/
  | past
  deriving DecidableEq, Repr

/-- A piece of a script, which is an expression with a number or a file. -/
inductive Piece where
  | expression (number : Nat) (text : List Char)
  | file (name : String) (text : List Char)

/-- The text of a piece of a script. -/
def Piece.text : Piece → List Char
  | .expression _ text => text
  | .file _ text => text

/-- A fault in a piece, in words. -/
def Fault.message (p : Piece) (f : Fault) : String :=
  match p, f.cause with
  | _, .expression .misplacedClass => f.cause.message
  | .expression n _, cause =>
    "-e expression #" ++ n.repr ++ ", char " ++ f.position.repr ++ ": " ++ cause.message
  | .file name _, cause => "file " ++ name ++ " line " ++ f.line.repr ++ ": " ++ cause.message

/-- How the tool was called. -/
structure Mode where
  quiet : Bool := false
  /-- Each file is a text of its own. -/
  separate : Bool := false
  /-- The files are changed themselves, and those that they were are kept under a name with this
  suffix unless it is empty. -/
  inPlace : Option String := none
  width : Nat := 70
  /-- The character that ends a line. -/
  mark : Char := '\n'
  strict : Bool := false
  /-- The piece of the script in which there was no place for a fault. -/
  piece : Piece

/-- An editor between two instructions. -/
structure Editor where
  script : Script
  mode : Mode
  call : Call
  ranges : Array Range
  line : Line := {}
  kept : Line := {}
  number : Nat := 0
  replaced : Bool := false
  /-- The expression used last. -/
  last : Option Expression := none
  /-- What is to be written at the end of the cycle, the last one first. -/
  appended : List Appended := []
  fileName : String := "-"
  /-- The lines that are left in the file. -/
  lines : List Line := []
  files : List String
  /-- The file that is being changed. -/
  changed : Option (List String) := none
  /-- The files that are read line by line, as they were at first. -/
  sources : List (String × List Line) := []
  /-- What is left of the files that are read line by line. -/
  readers : List (String × List Line) := sources
  out : Sink := {}
  inPlaceOut : Sink := {}
  written : List (String × Sink) := []
  /-- Files that were replaced while they were written, with the places where they are kept. -/
  replacedFiles : List (String × Option (List String)) := []
  err : List String := []
  status : Nat := 0
  /-- The input is being read or was read. -/
  inputUsed : Bool := false
  /-- The expression used last was asked for before there was one. -/
  lost : Bool := false

/-- How the instructions for a line end. -/
inductive Ending where
  | finished
  /-- The line is not written. -/
  | silent
  /-- What is left of the line is taken for the next one. -/
  | again
  | quit (status : Nat)
  deriving DecidableEq, Repr

/-! ### Writing -/

namespace Sink

/-- A text behind the end of the line before it. -/
def write (s : Sink) (mark : Char) (text : Octets) : Sink where
  pieces := text :: if s.lacksEnd then [mark] :: s.pieces else s.pieces

/-- A line with its end, if it has one. -/
def writeLine (s : Sink) (mark : Char) (l : Line) : Sink :=
  { s.write mark (if l.ended then l.text ++ [mark] else l.text) with lacksEnd := !l.ended }

/-- All that was written. -/
def content (s : Sink) : Octets :=
  s.pieces.reverse.flatten

end Sink

namespace Editor

/-- Changes where the editor writes to. -/
def onOut (e : Editor) (f : Sink → Sink) : Editor :=
  if e.changed.isSome then { e with inPlaceOut := f e.inPlaceOut } else { e with out := f e.out }

/-- Writes a text. -/
def write (e : Editor) (text : Octets) : Editor :=
  e.onOut fun s => s.write e.mode.mark text

/-- Writes a line. -/
def writeLine (e : Editor) (l : Line) : Editor :=
  e.onOut fun s => s.writeLine e.mode.mark l

/-- Writes a line to a file. -/
def writeLineTo (e : Editor) (path : String) (l : Line) : Editor :=
  let s := ((e.written.lookup path).getD {}).writeLine e.mode.mark l
  let others := e.written.filter fun w => w.1 ≠ path
  if path = "/dev/stdout" then
    { e with
      written := (path, { s with pieces := [] }) :: others
      out := { e.out with pieces := s.pieces ++ e.out.pieces } }
  else { e with written := others ++ [(path, s)] }

/-- Adds a message. -/
def complain (e : Editor) (message : String) (status : Nat) : Editor :=
  { e with err := (e.call.name ++ ": " ++ message ++ "\n") :: e.err, status }

/-- The content of a file that an instruction names. -/
def contentOf (e : Editor) (path : String) : Octets :=
  match e.call.contents (if path = "-" then "./-" else path) with
  | .ok s => if s.isInput && e.inputUsed then [] else s.content
  | .error _ => []

/-- Writes what was put off to the end of the cycle. -/
def flush (e : Editor) : Editor :=
  e.appended.reverse.foldl (fun e a =>
    match a with
    | .text s => e.write s
    | .file path => e.write (e.contentOf path))
    { e with appended := [] }

/-! ### Reading -/

/-- The lines of a text. -/
def linesOf (mark : Char) (s : Octets) : List Line :=
  let fields := s.splitOn mark
  fields.dropLast.map (fun text => { text, ended := true }) ++
    (fields.getLast?.filter fun l => !l.isEmpty).toList.map fun text => { text, ended := false }

/-- The files that a script reads line by line. -/
def readLineByLine (mark : Char) (c : Call) (s : Script) : List (String × List Line) :=
  s.instructions.toList.filterMap fun i =>
    match i.action with
    | .readLine path =>
      match c.contents (if path = "-" then "./-" else path) with
      | .ok text => if text.isInput then none else some (path, linesOf mark text.content)
      | .error _ => none
    | _ => none

/-- There is something in a file. -/
def hasLines (e : Editor) (path : String) : Bool :=
  match e.call.contents path with
  | .ok s => !s.content.isEmpty && !(s.isInput && e.inputUsed)
  | .error _ => false

/-- The line is the last one. -/
def isLast (e : Editor) : Bool :=
  e.lines.isEmpty && (e.mode.separate || !e.files.any e.hasLines)

/-- The editor after it has looked for further lines. At the end of a file it has come to the next
one for that. -/
def lookAhead (e : Editor) : Editor :=
  if e.lines.isEmpty && !e.mode.separate then
    { e with
      fileName := ((e.files.find? e.hasLines).or e.files.getLast?).getD e.fileName }
  else e

/-- Puts what was written in the place of the file that is being changed. -/
def closeFile (e : Editor) : Editor :=
  match e.changed, e.mode.inPlace with
  | some place, some suffix =>
    let tree := e.call.tree
    match tree.node? place with
    | some (.file content executable) =>
      let name := textOf suffix
      let backup := if suffix.toList.contains '*' then
          name.replace "*" (place.getLast?.getD "")
        else (place.getLast?.getD "") ++ name
      let tree := if suffix.isEmpty then tree
        else tree.put place.dropLast backup (.file content executable)
      let backupPlace := if suffix.isEmpty then none
        else (tree.find place.dropLast backup).toOption
      let replaced := e.script.files.filter fun path =>
        (e.replacedFiles.lookup path).isNone &&
          (e.call.tree.find e.call.directory (textOf path)).toOption = some place
      { e with
        call := { e.call with
          tree := tree.set place (.file (Octets.toBytes e.inPlaceOut.content) executable) }
        changed := none
        inPlaceOut := {}
        replacedFiles := replaced.map (·, backupPlace) ++ e.replacedFiles }
    | _ => { e with changed := none, inPlaceOut := {} }
  | _, _ => e

/-- Ranges before the first line. One that begins with line 0 is entered already. -/
def freshRanges (s : Script) : Array Range :=
  s.instructions.map fun i => if i.selection.first = some (.line 0) then .inside none else .outside

/-- Opens a file. -/
def openFile (e : Editor) (path : String) : Editor :=
  let e := e.closeFile
  let refuse (message : String) (status : Nat) : Editor :=
    { e.complain message status with status := max status e.status }
  match e.call.contents path with
  | .error message =>
    if path = "-" then { refuse ("read error on stdin: " ++ message) 4 with files := [] }
    else if message = InputFault.directory.message then
      if e.mode.inPlace.isSome then refuse ("couldn't edit " ++ path ++ ": not a regular file") 4
      else { refuse ("read error on " ++ path ++ ": " ++ message) 4 with files := [] }
    else refuse ("can't read " ++ path ++ ": " ++ message) 2
  | .ok s =>
    let e := { e with
      fileName := path
      lines := if s.isInput && e.inputUsed then [] else linesOf e.mode.mark s.content
      inputUsed := e.inputUsed || s.isInput }
    let fresh := { e with
      number := 0
      ranges := freshRanges e.script
      readers := e.sources
      kept := { e.kept with text := [] } }
    let e := if e.mode.separate then fresh else e
    if e.mode.inPlace.isSome && !s.isInput then
      { e with changed := (e.call.tree.find e.call.directory (textOf path)).toOption }
    else e

/-- Opens files until there is a line. -/
def openFiles : (most : Nat) → Editor → Editor
  | 0, e => e
  | most + 1, e =>
    match e.lines, e.files with
    | [], path :: files => openFiles most ({ e with files }.openFile path)
    | _, _ => e

/-- Takes the next line, if there is one. -/
def nextLine (e : Editor) : Option Line × Editor :=
  let e := openFiles e.files.length e.flush
  match e.lines with
  | [] => (none, e)
  | l :: lines => (some l, { e with lines, number := e.number + 1, replaced := false })

/-! ### Selecting -/

/-- Looks for an expression in the line; without one, for the one used last. -/
def find? (e : Editor) (x : Option Expression) (text : Array Char) (start : Nat) :
    Option Fit × Editor :=
  match x.or e.last with
  | some x => (x.find? text start, { e with last := some x })
  | none => (none, { e with lost := true })

/-- An address selects the line. -/
def fits (e : Editor) : Address → Bool × Editor
  | .line n => (e.number = n, e)
  | .last => (e.isLast, e.lookAhead)
  | .fit x =>
    let (fit, e) := e.find? x e.line.text.toArray 0
    (fit.isSome, e)
  | .every first step => (first ≤ e.number && (e.number - first) % step = 0, e)
  | .further _ | .multiple _ => (false, e)

/-- Sets how far the range of an instruction is. -/
def setRange (e : Editor) (place : Nat) (r : Range) : Editor :=
  { e with ranges := e.ranges.setIfInBounds place r }

/-- The line begins a range whose end is the address `finish`. -/
def enter (e : Editor) (place : Nat) (finish : Address) : Bool × Editor :=
  match finish with
  | .line n => (true, e.setRange place (if n ≤ e.number then .past else .inside none))
  | .further n =>
    (true, e.setRange place (if n = 0 then .past else .inside (some (e.number + n))))
  | .multiple n =>
    (true, e.setRange place (if n = 0 then .past else .inside (some ((e.number / n + 1) * n))))
  | .every _ _ => (true, e.setRange place (if (e.fits finish).1 then .past else .inside none))
  | _ => (true, e.setRange place (.inside none))

/-- The line is one of the range of an instruction. -/
def inRange (e : Editor) (place : Nat) (start finish : Address) : Bool × Editor :=
  let range := (e.ranges[place]?).getD .outside
  match range with
  | .inside (some n) => (true, if e.number < n then e else e.setRange place .past)
  | .inside none =>
    match finish with
    | .line n =>
      if e.number < n then (true, e) else (e.number = n, e.setRange place .past)
    | _ =>
      let (isEnd, e) := e.fits finish
      (true, if isEnd then e.setRange place .past else e)
  | range =>
    let (begins, e) := match start, range, finish with
      | .line n, .outside, .line m => (n = e.number || (n ≤ e.number && e.number ≤ m), e)
      | .line n, .outside, _ => (n ≤ e.number, e)
      | a, _, _ => e.fits a
    if begins then e.enter place finish else (false, e)

/-- An instruction is to be carried out for the line. -/
def selects (e : Editor) (place : Nat) (s : Selection) : Bool × Editor :=
  let (selected, e) := match s.first, s.last with
    | none, _ => (true, e)
    | some a, none => e.fits a
    | some a, some b => e.inRange place a b
  (selected != s.negated, e)

/-! ### Replacing -/

/-- A text with its letters changed: the first one as `next` says, the others as `all` says. -/
def cased (all next : Casing) (s : Octets) : Octets :=
  let change (k : Casing) (c : Char) : Char :=
    match k with
    | .lower | .nextLower => c.toLower
    | .upper | .nextUpper => c.toUpper
    | .unchanged => c
  match s with
  | [] => []
  | c :: s => change (if next = .unchanged then all else next) c :: s.map (change all)

/-- What takes the place of a piece of a text. -/
def substituteFor (text : Array Char) (f : Fit) (all next : Casing) : List Substitute → Octets
  | [] => []
  | .casing k :: parts =>
    match k with
    | .nextLower | .nextUpper => substituteFor text f all k parts
    | .unchanged => substituteFor text f .unchanged .unchanged parts
    | k => substituteFor text f k next parts
  | part :: parts =>
    let s : Octets := match part with
      | .octet c => [c]
      | .group n => f.octets text n
      | .casing _ => []
    if s.isEmpty then substituteFor text f all next parts
    else cased all next s ++ substituteFor text f all .unchanged parts

/-- Goes on with a replacement in a text from the place `start` on, at most `fuel` pieces further.
`count` is the number of pieces before it, and `after` the end of the last one. The result is in
pieces, the last one first, and says whether anything was replaced. -/
def replaceFrom (r : Replacement) (text : Array Char) :
    (fuel : Nat) → (start count : Nat) → (after : Option Nat) → (done : List Octets) → Bool →
      Editor → List Octets × Bool × Editor
  | 0, start, _, _, done, replaced, e =>
    ((text.extract start text.size).toList :: done, replaced, e)
  | fuel + 1, start, count, after, done, replaced, e =>
    let rest (start : Nat) : Octets := (text.extract start text.size).toList
    if text.size < start then (done, replaced, e)
    else
      match e.find? r.pattern text start with
      | (none, e) => (rest start :: done, replaced, e)
      | (some f, e) =>
        let between := (text.extract start f.first).toList
        let octet := (text.extract f.last (f.last + 1)).toList
        if f.first = f.last && after = some f.first then
          replaceFrom r text fuel (f.last + 1) count none (octet :: between :: done) replaced e
        else
          let next := if f.first = f.last then f.last + 1 else f.last
          let tail := if f.first = f.last then octet else []
          if count + 1 < r.number then
            replaceFrom r text fuel next (count + 1) (some f.last)
              (tail :: f.octets text 0 :: between :: done) replaced e
          else
            let new := substituteFor text f .unchanged .unchanged r.parts
            let done := tail :: new :: between :: done
            if r.all then replaceFrom r text fuel next (count + 1) (some f.last) done true e
            else (rest next :: done, true, e)

/-- Makes a replacement in the line. -/
def replace (e : Editor) (r : Replacement) : Editor :=
  let text := e.line.text.toArray
  let (pieces, replaced, e) := replaceFrom r text (text.size + 2) 0 0 none [] false e
  if !replaced then e
  else
    let e := { e with line := { e.line with text := pieces.reverse.flatten }, replaced := true }
    let e := if r.shown then e.writeLine e.line else e
    match r.file with
    | some path => e.writeLineTo path e.line
    | none => e

/-! ### Listing -/

/-- An octet in a form that shows what it is. -/
def shownOctet (c : Char) : List Char :=
  let codes := [('\\', '\\'), ('\x07', 'a'), ('\x08', 'b'), ('\x0c', 'f'), ('\n', 'n'), ('\r', 'r'),
    ('\t', 't'), ('\x0b', 'v')]
  match codes.lookup c with
  | some letter => ['\\', letter]
  | none =>
    if ' ' ≤ c && c ≤ '~' then [c]
    else
      let digits := Nat.toDigits 8 c.toNat
      '\\' :: List.replicate (3 - digits.length) '0' ++ digits

/-- A text in a form that shows what is in it, in lines of a width, or in one line for the width 0.
The last of them ends with `mark`. -/
def listed (mark : Char) (width : Nat) (column : Nat) : Octets → List Char
  | [] => ['$', mark]
  | c :: s =>
    let shown := shownOctet c
    if 0 < width && width - 1 < column + shown.length then
      '\\' :: '\n' :: shown ++ listed mark width shown.length s
    else shown ++ listed mark width (column + shown.length) s

/-! ### Instructions -/

/-- Where to go on after an instruction. -/
inductive Next where
  | at (place : Nat)
  | ending (e : Ending)

/-- The part of a line up to its first mark, and what comes after the mark. -/
def firstPart (mark : Char) (s : Octets) : Octets × Option Octets :=
  let first := s.takeWhile (· ≠ mark)
  (first, if first.length < s.length then some (s.drop (first.length + 1)) else none)

/-- The part of a line up to its first mark, as a line. -/
def firstLine (mark : Char) (l : Line) : Line :=
  match firstPart mark l.text with
  | (first, some _) => { text := first }
  | (_, none) => l

/-- Carries out the action of the instruction at a place, for which the line was selected. -/
def carryOut (e : Editor) (place : Nat) (a : Action) : Next × Editor :=
  let mark := e.mode.mark
  let on (e : Editor) : Next × Editor := (.at (place + 1), e)
  let ended (text : Octets) : Octets := if text.isEmpty then [] else text.dropLast ++ [mark]
  let withText (text : Octets) : Next × Editor := on { e with line := { e.line with text } }
  let jumpTo (label : String) (e : Editor) : Next × Editor :=
    if label.isEmpty then (.ending .finished, e)
    else (.at ((e.script.labels.lookup label).getD 0), e)
  match a with
  | .nothing | .block _ => on e
  | .append text => on { e with appended := .text text :: e.appended }
  | .insert text => on (e.write (ended text))
  | .change text =>
    let ranges := (e.script.instructions[place]?).any fun i => i.selection.last.isSome
    let isInside := match e.ranges[place]? with
      | some (.inside _) => ranges
      | _ => false
    (.ending .silent, if isInside then e else e.write (ended text))
  | .jump label => jumpTo label e
  | .jumpIfReplaced label =>
    if e.replaced then jumpTo label { e with replaced := false } else on e
  | .jumpUnlessReplaced label =>
    if e.replaced then on { e with replaced := false } else jumpTo label e
  | .delete => (.ending .silent, e)
  | .deleteFirst =>
    match firstPart mark e.line.text with
    | (_, none) => (.ending .silent, e)
    | (_, some rest) => (.ending .again, { e with line := { e.line with text := rest } })
  | .fileName => on (e.write (e.fileName.toList ++ [mark]))
  | .get => on { e with line := e.kept }
  | .getMore => on { e with line := { e.kept with text := e.line.text ++ mark :: e.kept.text } }
  | .keep => on { e with kept := e.line }
  | .keepMore => on { e with kept := { e.line with text := e.kept.text ++ mark :: e.line.text } }
  | .exchange => on { e with line := e.kept, kept := e.line }
  | .list width => on (e.write (listed mark (width.getD e.mode.width) 0 e.line.text))
  | .next =>
    if e.isLast then
      (.ending (if e.mode.strict then .silent else .finished), e)
    else
      let e := if e.mode.quiet then e else e.writeLine e.line
      match e.nextLine with
      | (some line, e) => on { e with line }
      | (none, e) => (.ending .silent, e)
  | .nextMore =>
    if e.isLast then
      (.ending (if e.mode.strict then .silent else .finished), e)
    else
      match e.nextLine with
      | (some line, e) =>
        on { e with line := { line with text := e.line.text ++ mark :: line.text } }
      | (none, e) => (.ending .finished, e)
  | .print => on (e.writeLine e.line)
  | .printFirst => on (e.writeLine (firstLine mark e.line))
  | .quit status =>
    let e := if e.mode.quiet then e else e.writeLine e.line
    (.ending (.quit status), e.flush.write [])
  | .quitSilently status => (.ending (.quit status), e)
  | .readFile path => on { e with appended := .file path :: e.appended }
  | .readLine path =>
    let lines := (e.readers.lookup path).getD (linesOf mark (e.contentOf path))
    let readers := (path, lines.tail) :: e.readers.filter fun r => r.1 ≠ path
    on { e with
      readers
      appended :=
        (lines.head?.map fun l => .text (l.text ++ if l.ended then [mark] else [])).toList ++
        e.appended }
  | .replace r => on (e.replace r)
  | .write path => on (e.writeLineTo path e.line)
  | .writeFirst path => on (e.writeLineTo path (firstLine mark e.line))
  | .exchangeOctets pairs => withText (e.line.text.map fun c => (pairs.lookup c).getD c)
  | .clear => withText []
  | .number => on (e.write (digitsOf e.number ++ [mark]))

/-- Carries out the instructions from a place on, at most `most` of them. -/
def carryOutFrom : (most : Nat) → (place : Nat) → Editor → Ending × Editor
  | 0, _, e => (.quit 137, e)
  | most + 1, place, e =>
    match e.script.instructions[place]? with
    | none => (.finished, e)
    | some i =>
      let (selected, e) := e.selects place i.selection
      if e.lost then (.quit 1, e)
      else if selected then
        match e.carryOut place i.action with
        | (.at place, e) => if e.lost then (.quit 1, e) else carryOutFrom most place e
        | (.ending ending, e) => (ending, e)
      else
        match i.action with
        | .block past => carryOutFrom most past e
        | _ => carryOutFrom most (place + 1) e

/-- Instructions that may be carried out for one line. -/
def maxInstructions : Nat := 200000

/-- Takes lines until there is none or the script quits. The line is there already if `again`. -/
def cycles : (most : Nat) → (again : Bool) → Editor → Editor
  | 0, _, e => e
  | most + 1, again, e =>
    let (line, e) := if again then (some e.line, e) else e.nextLine
    match line with
    | none => e
    | some line =>
      match carryOutFrom maxInstructions 0 { e with line } with
      | (.quit status, e) =>
        if e.lost then
          let fault : Fault := { cause := .noExpression, position := 0, line := 0 }
          e.complain (fault.message e.mode.piece) status
        else { e with status }
      | (.finished, e) =>
        cycles most false (if e.mode.quiet then e else e.writeLine e.line).flush
      | (.silent, e) => cycles most false e.flush
      | (.again, e) => cycles most true e.flush

/-- What the tool leaves. -/
def effect (e : Editor) : Effect :=
  let e := e.closeFile
  let left := e.lines.foldl (fun n l => n + l.text.length + if l.ended then 1 else 0) 0
  let isOnInput := e.fileName = "-" || e.fileName = "/dev/stdin"
  let tree := e.written.foldl (fun t w =>
    if w.1 = "/dev/stdout" || w.1 = "/dev/stderr" then t
    else
      let place? := (e.replacedFiles.lookup w.1).getD
        (t.find e.call.directory (textOf w.1)).toOption
      match place?, place?.bind t.node? with
      | some place, some (.file _ executable) =>
        t.set place (.file (Octets.toBytes w.2.content) executable)
      | _, _ => t) e.call.tree
  let shown := ((e.written.lookup "/dev/stderr").map Sink.content).getD []
  { out := e.out.content
    err := (e.err.reverse.flatMap String.toList) ++ shown
    status := e.status
    taken := if !e.inputUsed then 0
      else if isOnInput then e.call.gone (e.call.input.length - left)
      else e.call.input.length
    tree }

end Editor

/-- Why the tool does nothing. -/
structure Refusal where
  message : String
  status : Nat
  /-- Files that it has emptied already. -/
  files : List String := []

/-- The script in several pieces, of which `last` is the last one. -/
def script? (extended : Bool) (pieces : List Piece) (last : Piece) :
    Except Refusal Script := do
  let first : Reader := { rest := [], extended }
  let step (state : Reader × Bool) (p : Piece) : Except Refusal (Reader × Bool) :=
    match readPiece state.2 p.text state.1 with
    | .ok r => .ok (r, false)
    | .error f =>
      let status := if f.cause = .expression .misplacedClass then 4 else 1
      .error { message := f.message p, status, files := f.files }
  let (r, _) ← pieces.foldlM step (first, true)
  match finish r with
  | .error f => throw { message := f.message last, status := 1, files := f.files }
  | .ok s =>
    match s.missingLabel? with
    | some l =>
      throw { message := "can't find label for jump to `" ++ l ++ "'", status := 4
              files := s.files }
    | none => return s

end CrossCheck.Host.Sed

namespace CrossCheck.Host.Call

open CrossCheck.Host.Sed

/-- The options of `sed`. -/
def sedForms : List OptionForm :=
  [⟨'n', "quiet", .absent⟩, ⟨'n', "silent", .absent⟩, ⟨'e', "expression", .needed⟩,
    ⟨'f', "file", .needed⟩, ⟨'i', "in-place", .allowed⟩, ⟨'l', "line-length", .needed⟩,
    ⟨'E', "regexp-extended", .absent⟩, ⟨'r', "", .absent⟩, ⟨'s', "separate", .absent⟩,
    ⟨'u', "unbuffered", .absent⟩, ⟨'z', "null-data", .absent⟩, ⟨'z', "zero-terminated", .absent⟩,
    ⟨'p', "posix", .absent⟩, ⟨'b', "binary", .absent⟩]

/-- The pieces of the script that the options name, with the number of the next expression. -/
def scriptPieces (c : Call) : (number : Nat) → List Given → Except Refusal (List Piece)
  | _, [] => .ok []
  | n, g :: more =>
    if g.letter = 'e' then (c.scriptPieces (n + 1) more).map (.expression n g.value.toList :: ·)
    else if g.letter = 'f' then
      match c.contents g.value with
      | .error message =>
        .error { message := "couldn't open file " ++ g.value ++ ": " ++ message, status := 4 }
      | .ok s =>
        let text := if s.content.getLast? = some '\n' then s.content.dropLast else s.content
        (c.scriptPieces n more).map (.file g.value text :: ·)
    else c.scriptPieces n more

/-- Opens the files that a script writes. -/
def openWritten (c : Call) (paths : List String) : Except Refusal Call :=
  paths.foldlM (fun c path =>
    if path = "/dev/stdout" || path = "/dev/stderr" then .ok c
    else
      let refuse (message : String) : Except Refusal Call :=
        .error { message := "couldn't open file " ++ path ++ ": " ++ message, status := 4 }
      match c.tree.find c.directory (textOf path) with
      | .ok place =>
        match c.tree.node? place with
        | some (.file _ executable) =>
          .ok { c with tree := c.tree.set place (.file [] executable) }
        | some .directory => refuse "Is a directory"
        | _ => .ok c
      | .error .notFound =>
        let names := parts (textOf path)
        let start := if isFromRoot path then [] else c.directory
        match c.tree.follow maxLinks start names.dropLast with
        | .ok parent =>
          if c.tree.node? parent = some .directory then
            .ok { c with tree := c.tree.put c.directory (textOf path) (.file [] false) }
          else refuse PathFault.notDirectory.message
        | .error fault => refuse fault.message
      | .error fault => refuse fault.message) c

/-- Lines that may be taken. -/
def maxCycles : Nat := 1000000

/-- Edits its input or files. -/
def sed (c : Call) : Effect :=
  let usage : Effect :=
    { err := ("Usage: " ++ c.name ++
        " [OPTION]... \x7bscript-only-if-no-other-script\x7d [input-file]...\n").toList
      status := 1
      tree := c.tree }
  match Options.read sedForms c.arguments with
  | .error ⟨fault, _⟩ => (c.complain fault.message 1).join usage
  | .ok o =>
    let hasScript := o.has 'e' || o.has 'f'
    match (if hasScript then none else some o.operands.head?) with
    | some none => usage
    | operand =>
      let given := match operand with
        | some (some text) => [{ letter := 'e', value := text }]
        | _ => o.given
      let files := if hasScript then o.operands else o.operands.tail
      let prepared : Except Refusal (Script × Piece × Call) := do
        let pieces ← c.scriptPieces 1 given
        let last := pieces.getLast?.getD (.expression 1 [])
        let script ← script? (o.has 'E' || o.has 'r') pieces last
        if o.has 'i' && files.isEmpty then
          throw { message := "no input files", status := 4, files := script.files }
        return (script, last, ← c.openWritten script.files)
      match prepared with
      | .error r => ((c.openWritten r.files).toOption.getD c).complain r.message r.status
      | .ok (script, piece, c) =>
        let mode : Mode :=
          { quiet := o.has 'n' || script.quiet
            separate := o.has 's' || o.has 'i'
            inPlace := o.value? 'i'
            width := ((o.value? 'l').bind fun v => natural? v.toList).getD 70
            mark := if o.has 'z' then '\x00' else '\n'
            strict := o.has 'p'
            piece }
        Editor.effect <| Editor.cycles maxCycles false
          { script, mode, call := c, ranges := Editor.freshRanges script
            files := if files.isEmpty then ["-"] else files
            sources := Editor.readLineByLine mode.mark c script }

end CrossCheck.Host.Call
