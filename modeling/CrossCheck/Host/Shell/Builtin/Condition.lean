import CrossCheck.Host.Shell.Redirection

/-!
# The commands `test` and `[`

An expression is a list of words. What a word means depends on those after it: `-f` is an operator
if there is a name behind it, and a text if a comparison follows. A reader stands on the last word
that it has read, and the functions below go on from there.

* `Condition.holds` : whether an expression holds, or its fault
-/

namespace CrossCheck.Host.Shell

/-- Why an expression has no value. -/
inductive ConditionFault where
  | illegalNumber (text : String)
  | argumentExpected (operator : String)
  | closingExpected
  | unexpected (word : String)
  | missingBracket
  deriving DecidableEq, Repr

/-- The wording of a fault. -/
def ConditionFault.message : ConditionFault → String
  | .illegalNumber text => "Illegal number: " ++ text
  | .argumentExpected operator => operator ++ ": argument expected"
  | .closingExpected => "closing paren expected"
  | .unexpected word =>
    if word.isEmpty then "unexpected operator" else word ++ ": unexpected operator"
  | .missingBracket => "missing ]"

namespace Condition

/-- What a word of an expression is. -/
inductive Kind where
  | operand
  | unary
  | binary
  | negation
  | conjunction
  | disjunction
  | opening
  | closing
  | ended
  deriving DecidableEq, Repr

/-- The operators on one word. -/
def unaryOperators : List String :=
  ["-r", "-w", "-x", "-e", "-f", "-d", "-c", "-b", "-p", "-u", "-g", "-k", "-s", "-t", "-z", "-n",
    "-h", "-O", "-G", "-L", "-S"]

/-- The operators between two words. -/
def binaryOperators : List String :=
  ["=", "!=", "<", ">", "-eq", "-ne", "-ge", "-gt", "-le", "-lt", "-nt", "-ot", "-ef"]

/-- What a word may be by itself. -/
def kindOf (word : String) : Kind :=
  if unaryOperators.contains word then .unary
  else if binaryOperators.contains word then .binary
  else
    match word with
    | "!" => .negation
    | "-a" => .conjunction
    | "-o" => .disjunction
    | "(" => .opening
    | ")" => .closing
    | _ => .operand

/-- What the first of several words is. -/
def kind : List String → Kind
  | [] => .ended
  | word :: rest =>
    match kindOf word, rest with
    | .unary, [] | .opening, [] => .operand
    | .unary, next :: _ :: _ => if kindOf next = .binary then .operand else .unary
    | k, _ => k

/-- The whole number that a word stands for, with white space around it. -/
def number? (word : String) : Option Int :=
  let isSpace (c : Char) : Bool := c = ' ' || ('\t' ≤ c && c ≤ '\r')
  let s := word.toList.dropWhile isSpace
  let signed := s.head? = some '-' || s.head? = some '+'
  let digits := (if signed then s.tail else s).takeWhile Char.isDigit
  let rest := s.drop (digits.length + if signed then 1 else 0)
  let n := decimalOf digits
  if digits.isEmpty || !rest.all isSpace || 1 <<< 63 ≤ n then none
  else some (if s.head? = some '-' then -(n : Int) else n)

/-- A word as a whole number. -/
def number (word : String) : Except ConditionFault Int :=
  match number? word with
  | some n => .ok n
  | none => .error (.illegalNumber word)

/-- The path leads to a symbolic link. -/
def isLink (p : Process) (path : String) : Bool :=
  let names := parts (textOf path)
  match p.system.tree.follow maxLinks (if isFromRoot path then [] else p.directory)
      names.dropLast with
  | .ok place =>
    match p.system.tree.node? (place ++ names.getLast?.toList) with
    | some (.link _) => true
    | _ => false
  | .error _ => false

/-- A test on what a path leads to. -/
def pathHas (p : Process) (operator path : String) : Bool :=
  match (p.system.tree.findNode p.directory (textOf path)).toOption, operator with
  | some _, "-e" | some _, "-r" | some _, "-w" | some _, "-O" | some _, "-G" => true
  | some (.file _ executable), "-x" => executable
  | some .directory, "-x" | some (.program _), "-x" => true
  | some node, "-f" => Tree.isFile node
  | some node, "-d" => node = .directory
  | some (.device _), "-c" => true
  | some (.file content _), "-s" => !content.isEmpty
  | some .directory, "-s" | some (.program _), "-s" => true
  | some (.stream n), "-p" =>
    match (p.stream? n).bind (p.system.opened[·]?) with
    | some { channel := .pipe _, .. } => true
    | _ => false
  | _, _ => false

/-- A test on one word. -/
def one (p : Process) (operator word : String) : Except ConditionFault Bool :=
  match operator with
  | "-z" => .ok word.isEmpty
  | "-n" => .ok !word.isEmpty
  | "-t" => (number word).map fun _ => false
  | "-h" | "-L" => .ok (isLink p word)
  | _ => .ok (pathHas p operator word)

/-- A test on two words. -/
def two (p : Process) (a operator b : String) : Except ConditionFault Bool :=
  let compared (holds : Int → Int → Bool) : Except ConditionFault Bool := do
    return holds (← number a) (← number b)
  let place (path : String) : Option (List String) :=
    (p.system.tree.find p.directory (textOf path)).toOption
  match operator with
  | "=" => .ok (a == b)
  | "!=" => .ok (a != b)
  | "<" => .ok (a < b)
  | ">" => .ok (b < a)
  | "-eq" => compared (· == ·)
  | "-ne" => compared (· != ·)
  | "-ge" => compared fun x y => y ≤ x
  | "-gt" => compared fun x y => y < x
  | "-le" => compared fun x y => x ≤ y
  | "-lt" => compared fun x y => x < y
  | "-ef" => .ok ((place a).isSome && place a == place b)
  | _ => .ok false

/-- What a reader gives: the value, and the words from the last one on that it has read. -/
abbrev Read := Except ConditionFault (Bool × List String)

mutual

/-- Reads what may be joined by `-o`, given what the first word is. -/
def disjunction (p : Process) : (fuel : Nat) → Kind → List String → Read
  | 0, _, ws => .ok (false, ws)
  | fuel + 1, k, ws => do
    let (a, ws) ← conjunction p fuel k ws
    if kind ws.tail = .disjunction then
      let ws := ws.drop 2
      let (b, ws) ← disjunction p fuel (kind ws) ws
      return (a || b, ws)
    else return (a, ws)

/-- Reads what may be joined by `-a`. -/
def conjunction (p : Process) : (fuel : Nat) → Kind → List String → Read
  | 0, _, ws => .ok (false, ws)
  | fuel + 1, k, ws => do
    let (a, ws) ← negation p fuel k ws
    if kind ws.tail = .conjunction then
      let ws := ws.drop 2
      let (b, ws) ← conjunction p fuel (kind ws) ws
      return (a && b, ws)
    else return (a, ws)

/-- Reads what may be negated. -/
def negation (p : Process) : (fuel : Nat) → Kind → List String → Read
  | 0, _, ws => .ok (false, ws)
  | fuel + 1, k, ws => do
    if k = .negation then
      let (a, ws) ← negation p fuel (kind ws.tail) (if ws.tail.isEmpty then ws else ws.tail)
      return (!a, ws)
    else primary p fuel k ws

/-- Reads an expression in parentheses, a test, or a word, which holds if it is not empty. -/
def primary (p : Process) : (fuel : Nat) → Kind → List String → Read
  | 0, _, ws => .ok (false, ws)
  | fuel + 1, k, ws => do
    match k, ws with
    | .ended, _ => return (false, ws)
    | .opening, _ :: inside =>
      if kind inside = .closing then return (false, inside)
      let (a, ws) ← disjunction p fuel (kind inside) inside
      if kind ws.tail = .closing then return (a, ws.tail) else throw .closingExpected
    | .unary, operator :: rest =>
      match rest with
      | word :: _ => return (← one p operator word, rest)
      | [] => throw (.argumentExpected operator)
    | _, word :: rest =>
      match kind rest, rest with
      | .binary, operator :: more =>
        match more with
        | other :: _ => return (← two p word operator other, more)
        | [] => throw (.argumentExpected operator)
      | _, _ => return (!word.isEmpty, ws)
    | _, [] => return (false, ws)

end

/-- The value of an expression whose first word is of a kind. -/
def value (p : Process) (k : Kind) (ws : List String) : Except ConditionFault Bool := do
  let (a, ws) ← disjunction p (4 * ws.length + 4) k ws
  match ws with
  | word :: _ :: _ => throw (.unexpected word)
  | _ => return a

/-- An expression holds, or does not if it is `negated`. A few words mean what they mean by their
number alone; a second negation among them changes nothing. -/
def holds (p : Process) (negated : Bool) (ws : List String) : Except ConditionFault Bool :=
  let whole (k : Kind) (ws : List String) : Except ConditionFault Bool :=
    (value p k ws).map (· != negated)
  match ws with
  | [] => .ok negated
  | [a, b, c] =>
    if kindOf b = .binary then whole .operand ws
    else if a = "(" && c = ")" then whole (kind [b]) [b]
    else if a = "!" then holds p true [b, c]
    else whole (kind ws) ws
  | [a, b, c, d] =>
    if a = "(" && d = ")" then whole (kind [b, c]) [b, c]
    else if a = "!" then holds p true [b, c, d]
    else whole (kind ws) ws
  | _ => whole (kind ws) ws
  termination_by ws.length

end Condition

/-- The status of `test`, or of `[` if there has to be a bracket at the end. -/
def testStatus (p : Process) (bracket : Bool) (ws : List String) : Except ConditionFault Nat := do
  let isClosed := ws.getLast?.any fun w => w.toList.head? = some ']'
  if bracket && !isClosed then throw .missingBracket
  let value ← Condition.holds p false (if bracket then ws.dropLast else ws)
  return if value then 0 else 1

end CrossCheck.Host.Shell
