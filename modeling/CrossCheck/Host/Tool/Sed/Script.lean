import CrossCheck.Host.Regex

/-!
# Scripts of `sed`

A script is a list of instructions that are carried out for each line, some of them only on lines
that its addresses select. Blocks and jumps are places in that list.
-/

namespace CrossCheck.Host.Sed

/-- A way to select lines. -/
inductive Address where
  | line (n : Nat)
  | last
  /-- The lines that an expression fits; without one, the expression used last. -/
  | fit (x : Option Expression)
  /-- Every `step`th line, counted from the line `first`. -/
  | every (first step : Nat)
  /-- So many lines after the first one. Only for the end of a range. -/
  | further (n : Nat)
  /-- The next line whose number is a multiple. Only for the end of a range. -/
  | multiple (n : Nat)
  deriving DecidableEq, Repr

/-- The lines for which an instruction is carried out. -/
structure Selection where
  first : Option Address := none
  /-- The end of a range that begins with the first address. -/
  last : Option Address := none
  negated : Bool := false
  deriving DecidableEq, Repr

/-- A change of letters in a replacement. -/
inductive Casing where
  | lower
  | upper
  | nextLower
  | nextUpper
  | unchanged
  deriving DecidableEq, Repr

/-- A part of a replacement. -/
inductive Substitute where
  | octet (c : Char)
  | group (number : Nat)
  | casing (k : Casing)
  deriving DecidableEq, Repr

/-- What is replaced, and what is done then. -/
structure Replacement where
  /-- Without one, the expression used last. -/
  pattern : Option Expression
  parts : List Substitute
  /-- The first piece that is replaced. -/
  number : Nat := 1
  /-- All that follow are replaced too. -/
  all : Bool := false
  shown : Bool := false
  file : Option String := none
  deriving DecidableEq, Repr

/-- What an instruction does. -/
inductive Action where
  | nothing
  /-- The beginning of a block, and the place behind its end. -/
  | block (past : Nat)
  | append (text : Octets)
  | insert (text : Octets)
  | change (text : Octets)
  | jump (label : String)
  | jumpIfReplaced (label : String)
  | jumpUnlessReplaced (label : String)
  | delete
  | deleteFirst
  | fileName
  | get
  | getMore
  | keep
  | keepMore
  | exchange
  | list (width : Option Nat)
  | next
  | nextMore
  | print
  | printFirst
  | quit (status : Nat)
  | quitSilently (status : Nat)
  | readFile (path : String)
  | readLine (path : String)
  | replace (r : Replacement)
  | write (path : String)
  | writeFirst (path : String)
  /-- Octets and those that take their places. -/
  | exchangeOctets (pairs : List (Char × Char))
  | clear
  | number
  deriving DecidableEq, Repr

/-- An instruction. -/
structure Instruction where
  selection : Selection
  action : Action
  deriving DecidableEq, Repr

/-- A script. -/
structure Script where
  instructions : Array Instruction := #[]
  /-- Places to jump to. -/
  labels : List (String × Nat) := []
  /-- The files that are written. -/
  files : List String := []
  /-- Lines are shown only where an instruction says so. -/
  quiet : Bool := false

end CrossCheck.Host.Sed
