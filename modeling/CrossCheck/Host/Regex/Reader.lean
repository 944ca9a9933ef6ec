import CrossCheck.Host.Regex

/-!
# Reading regular expressions

There are two ways to write a regular expression. In the basic one the operators have a backslash in
front of them, and a `*`, a `^` or a `$` stands for itself where it can be no operator. In the
extended one they have none, and are operators everywhere.

* `Regex.read` : the expression that a text stands for, or its fault
-/

namespace CrossCheck.Host.Regex

open CrossCheck.Host.Shell (BracketItem)

/-- Why a text is no regular expression. -/
inductive Fault where
  | emptyBracket
  | openBracket
  | badClass
  | badCollation
  | badRange
  | misplacedClass
  | openGroup
  | closedGroup
  | openInterval
  | badInterval
  | tooBig
  | nothingToRepeat
  | badReference
  | endsInBackslash
  deriving DecidableEq, Repr

/-- The wording of a fault. -/
def Fault.message : Fault → String
  | .emptyBracket => "Invalid regular expression"
  | .openBracket => "Unmatched [, [^, [:, [., or [="
  | .badClass => "Invalid character class name"
  | .badCollation => "Invalid collation character"
  | .badRange => "Invalid range end"
  | .misplacedClass => "character class syntax is [[:space:]], not [:space:]"
  | .openGroup => "Unmatched ( or \\("
  | .closedGroup => "Unmatched ) or \\)"
  | .openInterval => "Unmatched \\\x7b"
  | .badInterval => "Invalid content of \\\x7b\\\x7d"
  | .tooBig => "Regular expression too big"
  | .nothingToRepeat => "Invalid preceding regular expression"
  | .badReference => "Invalid back reference"
  | .endsInBackslash => "Trailing backslash"

/-! ### Pieces -/

/-- A piece of a written expression. -/
inductive Lexeme where
  | octet (c : Char)
  | octets (k : OctetClass)
  | edge (e : Edge)
  | back (number : Nat)
  | bracket
  | openGroup
  | closeGroup
  | alternative
  | openInterval
  /-- An operator that repeats what stands before it, and how it is written. -/
  | repeated (c : Char) (least : Nat) (most : Option Nat)
  | backslash
  | ended
  deriving DecidableEq, Repr

/-- What a letter after a backslash stands for in any expression. -/
def letter? (c : Char) : Option Lexeme :=
  let word : List BracketItem := [.group "alnum", .range '_' '_']
  match c with
  | 'w' => some (.octets { items := word })
  | 'W' => some (.octets { negated := true, items := word })
  | 's' => some (.octets { items := [.group "space"] })
  | 'S' => some (.octets { negated := true, items := [.group "space"] })
  | 'b' => some (.edge .wordEdge)
  | 'B' => some (.edge .noWordEdge)
  | '<' => some (.edge .wordStart)
  | '>' => some (.edge .wordEnd)
  | '\x60' => some (.edge .textStart)
  | '\'' => some (.edge .textEnd)
  | _ => none

/-- What a character stands for as an operator. -/
def operator? (c : Char) : Option Lexeme :=
  match c with
  | '|' => some .alternative
  | '(' => some .openGroup
  | ')' => some .closeGroup
  | '{' => some .openInterval
  | '+' => some (.repeated c 1 none)
  | '?' => some (.repeated c 0 (some 1))
  | _ => none

/-- What stands behind a dollar sign makes it the end of a line. -/
def endsPart (s : List Char) : Bool :=
  match s with
  | [] => true
  | '\\' :: c :: _ => c = ')' || c = '|'
  | _ => false

/-- The first piece of a text, and how many characters it takes up. With `caret` there is nothing in
front of it in its part of the expression. -/
def lexeme (extended caret : Bool) (s : List Char) : Lexeme × Nat :=
  match s with
  | [] => (.ended, 0)
  | ['\\'] => (.backslash, 1)
  | '\\' :: c :: _ =>
    if '1' ≤ c && c ≤ '9' then (.back (c.toNat - 48), 2)
    else (((letter? c).or (if extended then none else operator? c)).getD (.octet c), 2)
  | '[' :: _ => (.bracket, 1)
  | '.' :: _ => (.octets { negated := true, items := [] }, 1)
  | '*' :: _ => (.repeated '*' 0 none, 1)
  | '^' :: _ => (if extended || caret then .edge .lineStart else .octet '^', 1)
  | '$' :: rest => (if extended || endsPart rest then .edge .lineEnd else .octet '$', 1)
  | c :: _ => (((if extended then operator? c else none).getD (.octet c)), 1)

/-! ### Brackets -/

/-- A piece between brackets. -/
inductive BracketPiece where
  | octet (c : Char)
  | group (name : String)
  deriving DecidableEq, Repr

/-- The piece at the front of what stands between brackets, and what comes after it. -/
def bracketPiece (s : List Char) : Except Fault (BracketPiece × List Char) :=
  let named (mark : Char) (rest : List Char) : Except Fault (List Char × List Char) :=
    let fields := rest.splitOn mark
    let name := fields.headD []
    match rest.drop (name.length + 1) with
    | ']' :: after => .ok (name, after)
    | _ => .error .openBracket
  match s with
  | [] => .error .openBracket
  | '[' :: mark :: rest =>
    if mark = ':' then do
      let (name, after) ← named ':' rest
      let name := String.ofList name
      if Shell.classNames.contains name then .ok (.group name, after) else .error .badClass
    else if mark = '.' || mark = '=' then do
      match ← named mark rest with
      | ([c], after) => .ok (.octet c, after)
      | _ => .error .badCollation
    else .ok (.octet '[', mark :: rest)
  | c :: rest => .ok (.octet c, rest)

/-- Reads what stands between brackets, up to the closing one: the items, and what comes after. The
first character may be a closing bracket that stands for itself. -/
def bracketItems : (fuel : Nat) → (first : Bool) → List Char →
    Except Fault (List BracketItem × List Char)
  | 0, _, _ => .error .openBracket
  | fuel + 1, first, s => do
    if !first && s.head? = some ']' then return ([], s.tail)
    let (piece, rest) ← bracketPiece s
    let isRange := match rest with
      | '-' :: ']' :: _ => false
      | '-' :: _ => true
      | _ => false
    match piece with
    | .group name =>
      if isRange then throw .badRange
      let (items, after) ← bracketItems fuel false rest
      return (.group name :: items, after)
    | .octet c =>
      if !isRange then
        let (items, after) ← bracketItems fuel false rest
        return (.range c c :: items, after)
      else
        match ← bracketPiece rest.tail with
        | (.octet d, rest) =>
          if d < c then throw .badRange
          let (items, after) ← bracketItems fuel false rest
          return (.range c d :: items, after)
        | (.group _, _) => throw .badRange

/-- What stands between brackets looks like the name of a class that lacks brackets of its own. -/
def looksLikeClass (items : List BracketItem) : Bool :=
  let colon : BracketItem := .range ':' ':'
  items.head? = some colon && items.getLast? = some colon && items.any (· ≠ colon) &&
    items.all fun i =>
      match i with
      | .range c d => c = d
      | .group _ => false

/-! ### Expressions -/

/-- A reader of expressions. -/
structure Reader where
  rest : List Char
  extended : Bool
  /-- Nothing stands in front in this part of the expression. -/
  caret : Bool := true
  opened : Nat := 0
  closed : List Nat := []

/-- A step of reading. -/
abbrev Reading := StateT Reader (Except Fault)

/-- The next piece. -/
def peek : Reading Lexeme := do
  let r ← get
  return (lexeme r.extended r.caret r.rest).1

/-- Goes past the next piece. -/
def pass (caret : Bool) : Reading Unit :=
  modify fun r =>
    { r with rest := r.rest.drop (lexeme r.extended r.caret r.rest).2, caret }

/-- The greatest number of times. -/
def maxTimes : Nat := 32767

/-- Reads what follows the opening brace of an interval. -/
def interval : Reading (Nat × Option Nat) := do
  let r ← get
  let isClosed (s : List Char) : Bool :=
    if r.extended then s.head? = some '}' else ['\\', '}'].isPrefixOf s
  let digits := r.rest.takeWhile Char.isDigit
  let rest := r.rest.drop digits.length
  let comma := rest.head? = some ','
  let more := if comma then rest.tail.takeWhile Char.isDigit else []
  let rest := if comma then rest.tail.drop more.length else rest
  if isClosed rest then
    if digits.isEmpty && !comma then throw .badInterval
    let least := decimalOf digits
    let most := if !comma then some least
      else if more.isEmpty then none else some (decimalOf more)
    if most.any (· < least) then throw .badInterval
    if maxTimes < least || most.any (maxTimes < ·) then throw .tooBig
    set { r with rest := rest.drop (if r.extended then 1 else 2), caret := false }
    return (least, most)
  else if (List.range rest.length).any fun n => isClosed (rest.drop n) then throw .badInterval
  else throw .openInterval

/-- Reads the operators that repeat what stands before them. -/
def repetitions : (fuel : Nat) → Regex → Reading Regex
  | 0, r => return r
  | fuel + 1, r => do
    let extended := (← get).extended
    let further (least : Nat) (most : Option Nat) : Reading Regex := do
      if !extended then
        match ← peek with
        | .openInterval | .repeated '*' _ _ => throw .nothingToRepeat
        | _ => pure ()
      repetitions fuel (r.times least most)
    match ← peek with
    | .repeated _ least most =>
      pass false
      further least most
    | .openInterval =>
      pass false
      let (least, most) ← interval
      further least most
    | _ => return r

mutual

/-- Reads expressions with marks of alternatives between them. None of them can refer to a group in
another one; the groups in front of them all are the ones in `closed`. -/
def alternatives : (fuel : Nat) → (nested : Bool) → (closed : List Nat) → Reading Regex
  | 0, _, _ => return .nothing
  | fuel + 1, nested, closed => do
    let first ← branch fuel nested
    match ← peek with
    | .alternative =>
      pass true
      let inFirst := (← get).closed
      modify fun r => { r with closed }
      let rest ← alternatives fuel nested closed
      modify fun r => { r with closed := inFirst ++ r.closed }
      return .either first rest
    | _ => return first

/-- Reads expressions that follow one another. -/
def branch : (fuel : Nat) → (nested : Bool) → Reading Regex
  | 0, _ => return .nothing
  | fuel + 1, nested => do
    let further : Reading Regex := do
      let first ← single fuel
      match ← branch fuel nested with
      | .nothing => return first
      | rest => return .both first rest
    match ← peek with
    | .ended | .alternative => return .nothing
    | .closeGroup => if nested then return .nothing else throw .closedGroup
    | _ => further

/-- Reads one expression. -/
def single : (fuel : Nat) → Reading Regex
  | 0 => return .nothing
  | fuel + 1 => do
    let t ← peek
    pass (t = .openGroup)
    let repeated (r : Regex) : Reading Regex := do
      repetitions ((← get).rest.length + 1) r
    match t with
    | .octet c => repeated (.octet (.only c))
    | .octets k => repeated (.octet k)
    | .edge e => return .edge e
    | .back n =>
      if !(← get).closed.contains n then throw .badReference
      repeated (.same n)
    | .bracket =>
      let r ← get
      let negated := r.rest.head? = some '^'
      let inside := if negated then r.rest.tail else r.rest
      if inside.isEmpty then throw .emptyBracket
      let (items, rest) ← bracketItems (inside.length + 1) true inside
      if looksLikeClass items then throw .misplacedClass
      set { r with rest }
      repeated (.octet { negated, items })
    | .openGroup =>
      modify fun r => { r with opened := r.opened + 1 }
      let n := (← get).opened
      let inside ← alternatives fuel true (← get).closed
      if (← peek) ≠ .closeGroup then throw .openGroup
      pass false
      modify fun r => { r with closed := n :: r.closed }
      repeated (.group n inside)
    | .openInterval => throw .nothingToRepeat
    | .repeated c _ _ =>
      if (← get).extended then throw .nothingToRepeat else repeated (.octet (.only c))
    | .backslash => throw .endsInBackslash
    | .closeGroup | .alternative | .ended => return .nothing

end

/-- The expression that a text stands for, and how many groups it has. -/
def read (extended : Bool) (text : List Char) : Except Fault (Regex × Nat) := do
  let (regex, r) ← (alternatives (4 * text.length + 8) false []).run { rest := text, extended }
  return (regex, r.opened)

end CrossCheck.Host.Regex
