import CrossCheck.Host.Regex.Reader
import CrossCheck.Host.Tool.Escape
import CrossCheck.Host.Tool.Sed.Script

/-!
# Reading scripts of `sed`

A script comes in pieces, which are read one after another; a block or a text may begin in one piece
and end in another. A fault is reported with its place.

* `Sed.readPiece` : reads a piece of a script
* `Sed.finish` : the whole script
-/

namespace CrossCheck.Host.Sed

/-! ### Faults -/

/-- Why a text is no script. -/
inductive Cause where
  | twoNegations
  | misplacedComma
  | misplacedCount
  | openBlock
  | closedBlock
  | more
  | noText
  | negatedLabel
  | addressedComment
  | addressedEnd
  | noCommand
  | oneAddress
  | openAddress
  | openReplacement
  | openExchange
  | badFlag
  | twoFlags (flag : Char)
  | twoNumbers
  | zeroNumber
  | unequalExchange
  | lineZero
  | unknown (c : Char)
  | noLabel
  | noFile
  | badGroup (n : Nat)
  | emptyWithFlags
  | newer
  | noExpression
  | expression (f : Regex.Fault)
  deriving DecidableEq, Repr

/-- The wording of a cause. -/
def Cause.message : Cause → String
  | .twoNegations => "multiple `!'s"
  | .misplacedComma => "unexpected `,'"
  | .misplacedCount => "invalid usage of +N or ~N as first address"
  | .openBlock => "unmatched `\x7b'"
  | .closedBlock => "unexpected `\x7d'"
  | .more => "extra characters after command"
  | .noText => "expected \\ after `a', `c' or `i'"
  | .negatedLabel => ": doesn't want any addresses"
  | .addressedComment => "comments don't accept any addresses"
  | .addressedEnd => "`\x7d' doesn't want any addresses"
  | .noCommand => "missing command"
  | .oneAddress => "command only uses one address"
  | .openAddress => "unterminated address regex"
  | .openReplacement => "unterminated `s' command"
  | .openExchange => "unterminated `y' command"
  | .badFlag => "unknown option to `s'"
  | .twoFlags flag => "multiple `" ++ .singleton flag ++ "' options to `s' command"
  | .twoNumbers => "multiple number options to `s' command"
  | .zeroNumber => "number option to `s' command may not be zero"
  | .unequalExchange => "strings for `y' command are different lengths"
  | .lineZero => "invalid usage of line address 0"
  | .unknown c => "unknown command: `" ++ .singleton c ++ "'"
  | .noLabel => "\":\" lacks a label"
  | .noFile => "missing filename in r/R/w/W commands"
  | .badGroup n => "invalid reference \\" ++ n.repr ++ " on `s' command's RHS"
  | .emptyWithFlags => "cannot specify modifiers on empty regexp"
  | .newer => "expected newer version of sed"
  | .noExpression => "no previous regular expression"
  | .expression f => f.message

/-- A fault of a script. -/
structure Fault where
  cause : Cause
  /-- How much of the piece was read. -/
  position : Nat
  line : Nat
  /-- The files that the script writes, up to there. -/
  files : List String := []
  deriving DecidableEq, Repr

/-! ### Escapes -/

/-- What the characters after a backslash stand for, and how many they are, if they are the code of
an octet. -/
def octetCode? (s : List Char) : Option (Char × Nat) :=
  let code (base most : Nat) (isDigit : Char → Bool) (letter : Char) (rest : List Char) :
      Option (Char × Nat) :=
    let digits := (rest.take most).takeWhile isDigit
    if digits.isEmpty then some (letter, 1)
    else
      some (octetOf (digits.foldl (fun v c => base * v + Text.hexValue c) 0), digits.length + 1)
  match s with
  | 'a' :: _ => some ('\x07', 1)
  | 'f' :: _ => some ('\x0c', 1)
  | 'n' :: _ => some ('\n', 1)
  | 'r' :: _ => some ('\r', 1)
  | 't' :: _ => some ('\t', 1)
  | 'v' :: _ => some ('\x0b', 1)
  | 'd' :: rest => code 10 3 Char.isDigit 'd' rest
  | 'o' :: rest => code 8 3 isOctal 'o' rest
  | 'x' :: rest => code 16 2 Text.isHexDigit 'x' rest
  | 'c' :: '\\' :: '\\' :: _ => some ('\x1c', 3)
  | 'c' :: c :: _ => some (.ofNat (c.toUpper.toNat ^^^ 64), 2)
  | ['c'] => some ('\\', 1)
  | _ => none

/-- A text in which the codes of octets are replaced. Other escapes stay. -/
def withoutCodes (s : List Char) : List Char :=
  match s with
  | [] => []
  | '\\' :: rest =>
    match octetCode? rest with
    | some (c, n) => c :: withoutCodes (rest.drop n)
    | none => '\\' :: rest.take 1 ++ withoutCodes (rest.drop 1)
  | c :: rest => c :: withoutCodes rest
  termination_by s.length
  decreasing_by all_goals simp only [List.length_cons, List.length_drop]; omega

/-- A text without its escapes. -/
def withoutEscapes (s : List Char) : List Char :=
  match s with
  | [] => []
  | '\\' :: rest =>
    match octetCode? rest with
    | some (c, n) => c :: withoutEscapes (rest.drop n)
    | none => rest.take 1 ++ withoutEscapes (rest.drop 1)
  | c :: rest => c :: withoutEscapes rest
  termination_by s.length
  decreasing_by all_goals simp only [List.length_cons, List.length_drop]; omega

/-- The parts of a replacement. -/
def substitutes (s : List Char) : List Substitute :=
  match s with
  | [] => []
  | '&' :: rest => .group 0 :: substitutes rest
  | '\\' :: rest =>
    match octetCode? rest with
    | some (c, n) => .octet c :: substitutes (rest.drop n)
    | none =>
      let casings := [('L', Casing.lower), ('U', .upper), ('l', .nextLower), ('u', .nextUpper),
        ('E', .unchanged)]
      match rest.head? with
      | none => [.octet '\\']
      | some c =>
        (if c.isDigit then .group (c.toNat - 48)
          else ((casings.lookup c).map Substitute.casing).getD (.octet c)) ::
        substitutes (rest.drop 1)
  | c :: rest => .octet c :: substitutes rest
  termination_by s.length
  decreasing_by all_goals simp only [List.length_cons, List.length_drop]; omega

/-! ### Reading -/

/-- An instruction whose text is not at its end. -/
structure Unfinished where
  instruction : Nat
  text : List Char

/-- A reader of scripts. -/
structure Reader where
  rest : List Char
  /-- How much of the piece was read. -/
  position : Nat := 0
  line : Nat := 1
  extended : Bool
  script : Script := {}
  /-- The places of the blocks that are open, the innermost first. -/
  blocks : List Nat := []
  unfinished : Option Unfinished := none

/-- A step of reading. -/
abbrev Reading := StateT Reader (Except Fault)

/-- Gives up. -/
def fail {α : Type} (cause : Cause) : Reading α := do
  let r ← get
  throw { cause, position := r.position, line := r.line, files := r.script.files }

/-- Takes the next character. -/
def next? : Reading (Option Char) := do
  let r ← get
  match r.rest with
  | [] => return none
  | c :: rest =>
    set { r with rest, position := r.position + 1, line := r.line + if c = '\n' then 1 else 0 }
    return some c

/-- The next character, which stays. -/
def peek? : Reading (Option Char) := do
  return (← get).rest.head?

/-- Takes the characters at the front that satisfy `p`. -/
def takeWhile (p : Char → Bool) : Reading (List Char) := do
  let r ← get
  let taken := r.rest.takeWhile p
  set { r with
    rest := r.rest.drop taken.length
    position := r.position + taken.length
    line := r.line + taken.count '\n' }
  return taken

/-- Goes past blanks. -/
def skipBlanks : Reading Unit := do
  let _ ← takeWhile fun c => c = ' ' || c = '\t'

/-- White space. -/
def isSpace (c : Char) : Bool :=
  Shell.inClass "space" c

/-- The number at the front of what is left; 0 if there is none. -/
def number : Reading Nat := do
  return decimalOf (← takeWhile Char.isDigit)

/-- Goes past the end of an instruction. -/
def endInstruction : Reading Unit := do
  skipBlanks
  match ← peek? with
  | none | some '}' | some '#' => return
  | some c =>
    let _ ← next?
    if c ≠ '\n' && c ≠ ';' then fail .more

/-- Where a character of a pattern stands. -/
inductive Spot where
  | outside
  /-- Behind a bracket. It has `begun` once a closing bracket would end it. -/
  | bracket (begun : Bool)
  /-- In the name of a class between brackets, up to the mark that ends it. -/
  | name (mark : Char)
  deriving DecidableEq, Repr

/-- The text up to a mark, and how many characters were passed, the mark included; `none` if there
is no mark on the line. In a pattern a mark between brackets stands for itself. -/
def delimited (mark : Char) (isPattern : Bool) : Spot → List Char → Option (List Char) × Nat
  | _, [] => (none, 0)
  | .outside, '\\' :: c :: s =>
    if mark = '\\' then (some [], 1)
    else
      let (text, n) := delimited mark isPattern .outside s
      let kept := if c = '\n' || (c = mark && (isPattern || c ≠ '&')) then [c]
        else if isPattern && c = 'n' then ['\n'] else ['\\', c]
      (text.map (kept ++ ·), n + 2)
  | spot, c :: s =>
    if c = '\n' then (none, 0)
    else if spot = .outside && c = mark then (some [], 1)
    else
      let spot : Spot := match spot with
        | .outside => if isPattern && c = '[' then .bracket false else .outside
        | .bracket begun =>
          if c = ']' && begun then .outside
          else if c = '[' && (s.head?.any ".:=".toList.contains) then .name (s.headD ' ')
          else .bracket (begun || c ≠ '^')
        | .name end' =>
          if c = end' && s.head? = some ']' then .bracket false else .name end'
      let (text, n) := delimited mark isPattern spot s
      (text.map (c :: ·), n + 1)

/-- Takes the text up to a mark. -/
def upTo (mark : Char) (isPattern : Bool) (cause : Cause) : Reading (List Char) := do
  let r ← get
  let (text, n) := delimited mark isPattern .outside r.rest
  let r := { r with
    rest := r.rest.drop n
    position := r.position + n
    line := r.line + (r.rest.take n).count '\n' }
  set r
  match text with
  | some text => return text
  | none =>
    set { r with position := r.position + (r.rest.takeWhile (· ≠ '\n')).length }
    fail cause

/-- The expression of a pattern; `none` for an empty one, which has no flags. -/
def expression? (text : List Char) (anyCase byLine : Bool) : Reading (Option Expression) := do
  if text.isEmpty then
    if anyCase || byLine then fail .emptyWithFlags
    return none
  match Regex.read (← get).extended (withoutCodes text) with
  | .error f => fail (.expression f)
  | .ok (regex, groups) => return some { regex, groups, anyCase, byLine }

/-- Reads the flags after the pattern of an address: whether letters count in any case, and whether
lines in the text count. -/
def addressFlags : (fuel : Nat) → (anyCase byLine : Bool) → Reading (Bool × Bool)
  | 0, anyCase, byLine => return (anyCase, byLine)
  | fuel + 1, anyCase, byLine => do
    skipBlanks
    match ← peek? with
    | some 'I' =>
      let _ ← next?
      addressFlags fuel true byLine
    | some 'M' =>
      let _ ← next?
      addressFlags fuel anyCase true
    | _ => return (anyCase, byLine)

/-- Reads an address, if there is one. -/
def address? : Reading (Option Address) := do
  let fit (mark : Char) : Reading (Option Address) := do
    let text ← upTo mark true .openAddress
    let (anyCase, byLine) ← addressFlags ((← get).rest.length + 1) false false
    return some (.fit (← expression? text anyCase byLine))
  match ← peek? with
  | some '$' =>
    let _ ← next?
    return some .last
  | some '/' =>
    let _ ← next?
    fit '/'
  | some '\\' =>
    let _ ← next?
    match ← next? with
    | some mark => fit mark
    | none => fail .openAddress
  | some '+' =>
    let _ ← next?
    skipBlanks
    return some (.further (← number))
  | some '~' =>
    let _ ← next?
    skipBlanks
    return some (.multiple (← number))
  | some c =>
    if !c.isDigit then return none
    let n ← number
    skipBlanks
    if (← peek?) ≠ some '~' then return some (.line n)
    let _ ← next?
    skipBlanks
    let step ← number
    return some (if step = 0 then .line n else .every n step)
  | none => return none

/-- Reads what selects lines. -/
def selection : Reading Selection := do
  let first ← address?
  let mut last := none
  match first with
  | none => pure ()
  | some a =>
    if match a with
        | .further _ | .multiple _ => true
        | _ => false then
      fail .misplacedCount
    skipBlanks
    if (← peek?) = some ',' then
      let _ ← next?
      skipBlanks
      last ← address?
      if last.isNone then
        let _ ← next?
        fail .misplacedComma
      skipBlanks
    if a = .line 0 && (match last with
        | some (.fit _) => false
        | _ => true) then
      let _ ← next?
      fail .lineZero
  if (← peek?) ≠ some '!' then return { first, last }
  let _ ← next?
  skipBlanks
  if (← peek?) = some '!' then
    let _ ← next?
    fail .twoNegations
  return { first, last, negated := true }

/-- Reads a label. -/
def label : Reading String := do
  skipBlanks
  return .ofList (← takeWhile fun c => !isSpace c && c ≠ ';' && c ≠ '}')

/-- Reads a path, which goes on to the end of the line. -/
def path : Reading String := do
  skipBlanks
  let text ← takeWhile (· ≠ '\n')
  if text.isEmpty then fail .noFile
  let _ ← next?
  return .ofList text

/-- Reads the path of a file that is written. -/
def writtenPath : Reading String := do
  let p ← path
  modify fun r => { r with script.files := r.script.files ++ [p] }
  return p

/-- The flags of a replacement. -/
structure Flags where
  anyCase : Bool := false
  byLine : Bool := false
  number : Option Nat := none
  all : Bool := false
  shown : Bool := false
  file : Option String := none

/-- Reads the flags of a replacement, up to the end of the instruction. -/
def flags : (fuel : Nat) → Flags → Reading Flags
  | 0, f => return f
  | fuel + 1, f => do
    match ← peek? with
    | none | some '}' | some '#' => return f
    | some c =>
      if c.isDigit then
        if f.number.isSome then
          let _ ← next?
          fail .twoNumbers
        let n ← number
        if n = 0 then fail .zeroNumber
        flags fuel { f with number := some n }
      else
        let _ ← next?
        match c with
        | '\n' | ';' => return f
        | 'i' | 'I' => flags fuel { f with anyCase := true }
        | 'm' | 'M' => flags fuel { f with byLine := true }
        | 'p' => if f.shown then fail (.twoFlags 'p') else flags fuel { f with shown := true }
        | 'g' => if f.all then fail (.twoFlags 'g') else flags fuel { f with all := true }
        | 'w' => return { f with file := some (← writtenPath) }
        | _ => if isSpace c then flags fuel f else fail .badFlag

/-- The greatest number of a group in a replacement. -/
def greatestGroup (parts : List Substitute) : Nat :=
  parts.foldl (fun n part => match part with
    | .group k => max n k
    | _ => n) 0

/-- Reads a replacement from its first mark on. -/
def replacement : Reading Replacement := do
  match ← next? with
  | none => fail .openReplacement
  | some mark =>
    if mark = '\n' then fail .openReplacement
    let text ← upTo mark true .openReplacement
    let parts := substitutes (← upTo mark false .openReplacement)
    let f ← flags ((← get).rest.length + 1) {}
    let pattern ← expression? text f.anyCase f.byLine
    let greatest := greatestGroup parts
    if pattern.any fun x => x.groups < greatest then fail (.badGroup greatest)
    return { pattern, parts, number := f.number.getD 1, all := f.all, shown := f.shown
             file := f.file }

/-- Reads an exchange of octets from its first mark on. -/
def exchange : Reading (List (Char × Char)) := do
  match ← next? with
  | none => fail .openExchange
  | some mark =>
    let old := withoutEscapes (← upTo mark false .openExchange)
    let new := withoutEscapes (← upTo mark false .openExchange)
    if old.length ≠ new.length then fail .unequalExchange
    endInstruction
    return old.zip new

/-- The characters of a text up to the end of a line that does not go on, as they are written, and
whether the text is at its end. -/
def textLines : List Char → List Char × Bool
  | [] => ([], true)
  | ['\\'] => (['\\'], false)
  | '\\' :: c :: s =>
    let (text, isComplete) := textLines s
    ('\\' :: c :: text, isComplete)
  | c :: s =>
    if c = '\n' then ([], true)
    else
      let (text, isComplete) := textLines s
      (c :: text, isComplete)

/-- Takes a text up to the end of its last line. The text is `begun` already, and the instruction
that it belongs to is the one with the given number. -/
def text (instruction : Nat) (begun : List Char) : Reading Octets := do
  let r ← get
  let (more, isComplete) := textLines r.rest
  let rest := r.rest.drop (more.length + 1)
  let written := begun ++ more
  set { r with
    rest
    position := r.position + (r.rest.length - rest.length)
    line := r.line + (r.rest.take (more.length + 1)).count '\n'
    unfinished := if isComplete then none
      else some { instruction, text := written.dropLast ++ ['\\', '\n'] } }
  return (if isComplete then withoutEscapes written else written.dropLast) ++ ['\n']

/-- Reads what follows `a`, `c` or `i`. -/
def textAfter : Reading Octets := do
  let instruction := (← get).script.instructions.size
  skipBlanks
  match ← peek? with
  | none => fail .noText
  | some '\\' =>
    let _ ← next?
    match ← peek? with
    | none =>
      modify fun r => { r with unfinished := some { instruction, text := [] } }
      return []
    | some c =>
      if c = '\n' then
        let _ ← next?
      text instruction []
  | some _ => text instruction []

/-- Reads a number that may follow an instruction, and goes past the end of the instruction. -/
def count? : Reading (Option Nat) := do
  skipBlanks
  let digits ← takeWhile Char.isDigit
  endInstruction
  return natural? digits

/-- Reads the action that a character stands for. -/
def action (s : Selection) (c : Char) : Reading Action := do
  let simple (a : Action) : Reading Action := do
    endInstruction
    return a
  let jump (a : String → Action) : Reading Action := do
    let l ← label
    endInstruction
    return a l
  match c with
  | '{' =>
    modify fun r => { r with blocks := r.script.instructions.size :: r.blocks }
    return .block 0
  | '}' =>
    match (← get).blocks with
    | [] => fail .closedBlock
    | place :: blocks =>
      if s.first.isSome then fail .addressedEnd
      endInstruction
      modify fun r =>
        { r with
          blocks
          script.instructions := r.script.instructions.modify place fun i =>
            { i with action := .block r.script.instructions.size } }
      return .nothing
  | 'a' => return .append (← textAfter)
  | 'i' => return .insert (← textAfter)
  | 'c' => return .change (← textAfter)
  | ':' =>
    if s.first.isSome then fail .negatedLabel
    let l ← label
    if l.isEmpty then fail .noLabel
    modify fun r =>
      { r with script.labels := r.script.labels ++ [(l, r.script.instructions.size)] }
    if (← peek?) = some ';' then
      let _ ← next?
    return .nothing
  | 'b' => jump .jump
  | 't' => jump .jumpIfReplaced
  | 'T' => jump .jumpUnlessReplaced
  | 'd' => simple .delete
  | 'D' => simple .deleteFirst
  | 'F' => simple .fileName
  | 'g' => simple .get
  | 'G' => simple .getMore
  | 'h' => simple .keep
  | 'H' => simple .keepMore
  | 'x' => simple .exchange
  | 'n' => simple .next
  | 'N' => simple .nextMore
  | 'p' => simple .print
  | 'P' => simple .printFirst
  | 'z' => simple .clear
  | '=' => simple .number
  | 'l' => return .list (← count?)
  | 'q' =>
    if s.last.isSome then fail .oneAddress
    return .quit ((← count?).getD 0 % 256)
  | 'Q' =>
    if s.last.isSome then fail .oneAddress
    return .quitSilently ((← count?).getD 0 % 256)
  | 'r' => return .readFile (← path)
  | 'R' => return .readLine (← path)
  | 'w' => return .write (← writtenPath)
  | 'W' => return .writeFirst (← writtenPath)
  | 's' => return .replace (← replacement)
  | 'y' => return .exchangeOctets (← exchange)
  | 'v' =>
    let l ← label
    if l.toList.head?.any fun d => '5' ≤ d && d ≤ '9' then fail .newer
    endInstruction
    return .nothing
  | c => fail (.unknown c)

/-- Reads the next instruction, if there is one. With `isFirst` a comment that begins with `#n`
makes the script a quiet one. -/
def instruction (isFirst : Bool) : Reading Bool := do
  let _ ← takeWhile fun c => isSpace c || c = ';'
  if (← peek?).isNone then return false
  let s ← selection
  match ← next? with
  | none => fail .noCommand
  | some '#' =>
    if s.first.isSome then fail .addressedComment
    let isAtFront := (← get).position = 1
    let comment ← takeWhile (· ≠ '\n')
    if isFirst && isAtFront && comment.head? = some 'n' then
      modify fun r => { r with script.quiet := true }
    return true
  | some c =>
    let a ← action s c
    modify fun r =>
      { r with
        script.instructions := r.script.instructions.push { selection := s, action := a } }
    return true

/-- Reads instructions to the end. -/
def instructions (isFirst : Bool) : (fuel : Nat) → Reading Unit
  | 0 => return
  | fuel + 1 => do
    if ← instruction isFirst then instructions isFirst fuel

/-- The action with another text. -/
def Action.withText (a : Action) (text : Octets) : Action :=
  match a with
  | .append _ => .append text
  | .insert _ => .insert text
  | .change _ => .change text
  | a => a

/-- Reads a piece of a script. -/
def readPiece (isFirst : Bool) (piece : List Char) (r : Reader) : Except Fault Reader := do
  let r := { r with rest := piece, position := 0, line := 1 }
  let goOn : Reading Unit := do
    match r.unfinished with
    | none => return
    | some u =>
      let t ← text u.instruction u.text
      modify fun r =>
        { r with
          script.instructions := r.script.instructions.modify u.instruction fun i =>
            { i with action := i.action.withText t } }
  let ((), r) ← (do goOn; instructions isFirst (piece.length + 1)).run r
  return r

/-- The whole script. -/
def finish (r : Reader) : Except Fault Script :=
  if r.blocks.isEmpty then .ok r.script
  else .error { cause := .openBlock, position := 0, line := r.line, files := r.script.files }

/-- A label that a script jumps to and does not have. -/
def Script.missingLabel? (s : Script) : Option String :=
  s.instructions.toList.findSome? fun i =>
    match i.action with
    | .jump l | .jumpIfReplaced l | .jumpUnlessReplaced l =>
      if l.isEmpty || s.labels.any (fun k => k.1 = l) then none else some l
    | _ => none

end CrossCheck.Host.Sed
