import CrossCheck.Host.Shell.Script.Token

/-!
# Shell arithmetic

The expressions in `$((…))` have whole numbers of 64 bits that wrap around, variables, the usual
operators with the usual precedence, and assignments. Comparisons and connectives have the values 0
and 1. A part that a connective makes idle is read and not evaluated: it assigns nothing and divides
by nothing.

* `Arithmetic.eval` : the value of an expression and the variables that it sets, or its fault
-/

namespace CrossCheck.Host.Shell.Arithmetic

/-- Why an expression has no value. -/
inductive Fault where
  | expecting (what : String)
  | divisionByZero
  | illegalNumber (text : String)
  deriving DecidableEq, Repr

/-- The wording of a fault in the expression `text`. -/
def Fault.message (text : String) : Fault → String
  | .expecting what => "arithmetic expression: expecting " ++ what ++ ": \"" ++ text ++ "\""
  | .divisionByZero => "arithmetic expression: division by zero: \"" ++ text ++ "\""
  | .illegalNumber s => "Illegal number: " ++ s

/-- A piece of an expression. -/
inductive Lexeme where
  | number (n : Int)
  | name (text : String)
  | symbol (text : String)
  /-- A character that has no place in an expression. -/
  | stray
  deriving DecidableEq, Repr

/-- The operators that combine two numbers, from those that bind loosest to those that bind
tightest. -/
def levels : List (List String) :=
  [["|"], ["^"], ["&"], ["==", "!="], ["<=", ">=", "<", ">"], ["<<", ">>"], ["+", "-"],
    ["*", "/", "%"]]

/-- The operators that assign, each with the operator that it applies first. -/
def assignments : List (String × String) :=
  [("=", ""), ("+=", "+"), ("-=", "-"), ("*=", "*"), ("/=", "/"), ("%=", "%"), ("<<=", "<<"),
    (">>=", ">>"), ("&=", "&"), ("^=", "^"), ("|=", "|")]

/-- The symbols of expressions, longer ones before those that they begin with. -/
def symbols : List String :=
  ["<<=", ">>=", "||", "&&", "==", "!=", "<=", ">=", "<<", ">>", "+=", "-=", "*=", "/=", "%=", "&=",
    "^=", "|=", "=", "<", ">", "+", "-", "*", "/", "%", "&", "|", "^", "!", "~", "?", ":", "(", ")"]

/-- A number as one of 64 bits. -/
def wrap (n : Int) : Int :=
  n.bmod (1 <<< 64)

/-- The greatest number of 64 bits. -/
def greatest : Nat := 1 <<< 63 - 1

/-- The digit of a character in any base up to 36. -/
def digit? (base : Nat) (c : Char) : Option Nat :=
  let v := if c.isDigit then c.toNat - 48 else if c.isAlpha then c.toLower.toNat - 87 else 36
  if v < base then some v else none

/-- The number of digits at the front of a text, and the number that they stand for. -/
def digits (base : Nat) (s : List Char) : Nat × Nat :=
  let ds := s.takeWhile fun c => (digit? base c).isSome
  (ds.length, ds.foldl (fun v c => base * v + (digit? base c).getD 0) 0)

/-- The unsigned number at the front of a text, in base 16 after `0x` and in base 8 after `0`: how
many characters it takes up, and its value. -/
def unsigned (s : List Char) : Nat × Nat :=
  match s with
  | '0' :: x :: rest =>
    let (n, v) := digits 16 rest
    if (x = 'x' || x = 'X') && 0 < n then (n + 2, v) else digits 8 s
  | _ => digits 10 s

/-- White space. -/
def isSpace (c : Char) : Bool :=
  c = ' ' || ('\t' ≤ c && c ≤ '\r')

/-- The number that a text stands for that is the value of a variable. Numbers out of range count
as the nearest one in range. -/
def number? (text : String) : Option Int :=
  let s := text.toList.dropWhile isSpace
  let signed := s.head? = some '-' || s.head? = some '+'
  let (n, v) := unsigned (if signed then s.tail else s)
  let rest := if n = 0 then s else s.drop (n + if signed then 1 else 0)
  if rest.all isSpace then
    some (if s.head? = some '-' then -(min v (greatest + 1) : Nat) else (min v greatest : Nat))
  else none

/-- Cuts an expression into pieces. -/
def lexemes (s : List Char) : List Lexeme :=
  match s with
  | [] => []
  | c :: s =>
    if c = ' ' || c = '\t' || c = '\n' then lexemes s
    else if c.isDigit then
      let (n, v) := unsigned (c :: s)
      .number (min v greatest : Nat) :: lexemes (s.drop (n - 1))
    else if isNameStart c then
      let word := s.takeWhile isNameChar
      .name (.ofList (c :: word)) :: lexemes (s.drop word.length)
    else
      match leading? symbols (c :: s) with
      | some symbol => .symbol symbol :: lexemes (s.drop (symbol.length - 1))
      | none => [.stray]
  termination_by s.length
  decreasing_by all_goals simp only [List.length_cons, List.length_drop]; omega

/-- The value of a condition. -/
def truth (b : Bool) : Int :=
  if b then 1 else 0

/-- The bits of a number. -/
def bits (n : Int) : Nat :=
  (n % (1 <<< 64 : Nat)).toNat

/-- What an operator makes of two numbers. Nothing is divided by zero. -/
def combine (symbol : String) (a b : Int) : Except Fault Int :=
  match symbol with
  | "|" => .ok (wrap (bits a ||| bits b : Nat))
  | "^" => .ok (wrap (bits a ^^^ bits b : Nat))
  | "&" => .ok (wrap (bits a &&& bits b : Nat))
  | "==" => .ok (truth (a == b))
  | "!=" => .ok (truth (a != b))
  | "<=" => .ok (truth (a ≤ b))
  | ">=" => .ok (truth (a ≥ b))
  | "<" => .ok (truth (a < b))
  | ">" => .ok (truth (a > b))
  | "<<" => .ok (wrap (a * (1 <<< (bits b % 64) : Nat)))
  | ">>" => .ok (a >>> (bits b % 64))
  | "+" => .ok (wrap (a + b))
  | "-" => .ok (wrap (a - b))
  | "*" => .ok (wrap (a * b))
  | "/" => if b = 0 then .error .divisionByZero else .ok (wrap (a.tdiv b))
  | "%" => if b = 0 then .error .divisionByZero else .ok (a.tmod b)
  | _ => .ok b

/-- A reader of expressions: what is left to read, and the variables that were set, last first. -/
structure Reader where
  rest : List Lexeme
  assigned : List (String × Int) := []

/-- A step of an evaluation. -/
abbrev Evaluation := StateT Reader (Except Fault)

/-- Goes past a symbol if it is the next piece, and says whether it was. -/
def skips (symbol : String) : Evaluation Bool := do
  let r ← get
  if r.rest.head? = some (.symbol symbol) then
    set { r with rest := r.rest.tail }
    return true
  else return false

/-- The value of a variable. -/
def valueOf (value : String → Option String) (name : String) : Evaluation Int := do
  match (← get).assigned.lookup name with
  | some n => return n
  | none =>
    let text := (value name).getD ""
    match number? text with
    | some n => return n
    | none => throw (.illegalNumber text)

/-- The next piece, if it is one of several symbols. -/
def next? (texts : List String) : Evaluation (Option String) := do
  match (← get).rest.head? with
  | some (.symbol symbol) =>
    if texts.contains symbol then
      modify fun r => { r with rest := r.rest.tail }
      return some symbol
    else return none
  | _ => return none

mutual

/-- Reads an assignment or a condition. It is evaluated only if it is `live`. -/
def assignment (value : String → Option String) : (fuel : Nat) → (live : Bool) → Evaluation Int
  | 0, _ => throw (.expecting "primary")
  | fuel + 1, live => do
    match (← get).rest with
    | .name name :: .symbol symbol :: rest =>
      match assignments.lookup symbol with
      | none => condition value fuel live
      | some op =>
        modify fun r => { r with rest }
        let n ← assignment value fuel live
        if !live then return n
        let n ← if op.isEmpty then pure n else combine op (← valueOf value name) n
        modify fun r => { r with assigned := (name, n) :: r.assigned }
        return n
    | _ => condition value fuel live

/-- Reads a choice between two values. -/
def condition (value : String → Option String) : (fuel : Nat) → (live : Bool) → Evaluation Int
  | 0, _ => throw (.expecting "primary")
  | fuel + 1, live => do
    let a ← disjunction value fuel live
    if !(← skips "?") then return a
    let b ← assignment value fuel (live && a != 0)
    if !(← skips ":") then throw (.expecting "':'")
    let c ← condition value fuel (live && a == 0)
    return if a != 0 then b else c

/-- Reads what may be joined by `||`. -/
def disjunction (value : String → Option String) : (fuel : Nat) → (live : Bool) → Evaluation Int
  | 0, _ => throw (.expecting "primary")
  | fuel + 1, live => do
    let a ← conjunction value fuel live
    if !(← skips "||") then return a
    let b ← disjunction value fuel (live && a == 0)
    return truth (a != 0 || b != 0)

/-- Reads what may be joined by `&&`. -/
def conjunction (value : String → Option String) : (fuel : Nat) → (live : Bool) → Evaluation Int
  | 0, _ => throw (.expecting "primary")
  | fuel + 1, live => do
    let a ← binary value fuel live levels
    if !(← skips "&&") then return a
    let b ← conjunction value fuel (live && a != 0)
    return truth (a != 0 && b != 0)

/-- Reads an expression of operators of the given levels. -/
def binary (value : String → Option String) :
    (fuel : Nat) → (live : Bool) → List (List String) → Evaluation Int
  | 0, _, _ => throw (.expecting "primary")
  | fuel + 1, live, [] => operand value fuel live
  | fuel + 1, live, level :: tighter => do
    further value fuel live level tighter (← binary value fuel live tighter)

/-- Reads what follows a first operand: further operators of one level. -/
def further (value : String → Option String) :
    (fuel : Nat) → (live : Bool) → List String → List (List String) → Int → Evaluation Int
  | 0, _, _, _, a => return a
  | fuel + 1, live, level, tighter, a => do
    match ← next? level with
    | none => return a
    | some symbol =>
      let b ← binary value fuel live tighter
      let c ← if live then combine symbol a b else pure b
      further value fuel live level tighter c

/-- Reads an operand. -/
def operand (value : String → Option String) : (fuel : Nat) → (live : Bool) → Evaluation Int
  | 0, _ => throw (.expecting "primary")
  | fuel + 1, live => do
    let r ← get
    let pass : Evaluation Unit := set { r with rest := r.rest.tail }
    match r.rest with
    | .number n :: _ =>
      pass
      return n
    | .name name :: _ =>
      pass
      if live then valueOf value name else return 0
    | .symbol "+" :: _ =>
      pass
      operand value fuel live
    | .symbol "-" :: _ =>
      pass
      return wrap (-(← operand value fuel live))
    | .symbol "!" :: _ =>
      pass
      return truth ((← operand value fuel live) == 0)
    | .symbol "~" :: _ =>
      pass
      return -(← operand value fuel live) - 1
    | .symbol "(" :: _ =>
      pass
      let n ← assignment value fuel live
      if !(← skips ")") then throw (.expecting "')'")
      return n
    | _ => throw (.expecting "primary")

end

/-- The value of an expression, and the variables that it sets in order. -/
def eval (value : String → Option String) (text : List Char) :
    Except Fault (Int × List (String × Int)) := do
  let ls := lexemes text
  let fuel := (levels.length + 8) * (ls.length + 2)
  let (n, r) ← (assignment value fuel true).run { rest := ls }
  if r.rest.isEmpty then return (n, r.assigned.reverse) else throw (.expecting "EOF")

end CrossCheck.Host.Shell.Arithmetic
