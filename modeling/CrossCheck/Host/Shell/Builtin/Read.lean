import CrossCheck.Host.Shell.Builtin.Basic
import CrossCheck.Host.Shell.Expansion

/-!
# The command `read`

A line is cut into fields, one for each variable; the last variable takes all that is left.
-/

namespace CrossCheck.Host.Shell

/-- The line at the front of a text: its characters, how many octets it takes up, and whether a
newline ends it. Unless it is `raw`, a backslash makes the next character an ordinary one and a
newline vanish. -/
def inputLine (raw : Bool) : Octets → List Mark × Nat × Bool
  | [] => ([], 0, false)
  | '\n' :: _ => ([], 1, true)
  | '\\' :: c :: s =>
    if raw then
      let (ms, n, isEnded) := inputLine raw (c :: s)
      (⟨false, '\\'⟩ :: ms, n + 1, isEnded)
    else
      let (ms, n, isEnded) := inputLine raw s
      (if c = '\n' then ms else ⟨true, c⟩ :: ms, n + 2, isEnded)
  | c :: s =>
    let (ms, n, isEnded) := inputLine raw s
    let isKept := c ≠ '\x00' && (raw || c ≠ '\\')
    (if isKept then ⟨false, c⟩ :: ms else ms, n + 1, isEnded)

/-- The pieces of a line. -/
def lineGlyphs (ms : List Mark) : List Glyph :=
  ms.map fun m => .char m.c m.quoted (!m.quoted)

/-- What is left of a line for the last variable: its one field, or all of it but the white space at
its end. -/
def lastField (separators : List Char) (ms : List Mark) : List Mark :=
  let isBlank (m : Mark) : Bool := !m.quoted && isBlankSeparator m.c && separators.contains m.c
  match cutFields separators none false (lineGlyphs ms) with
  | [] => []
  | [field] => field
  | _ => ((ms.dropWhile isBlank).reverse.dropWhile isBlank).reverse

/-- The first field of a line, and what comes after the separator that ends it. -/
def firstField (separators : List Char) (ms : List Mark) : List Mark × List Mark :=
  let isSeparator (m : Mark) : Bool := !m.quoted && separators.contains m.c
  let isBlank (m : Mark) : Bool := isSeparator m && isBlankSeparator m.c
  let ms := ms.dropWhile isBlank
  let field := ms.takeWhile fun m => !isSeparator m
  let rest := (ms.drop field.length).dropWhile isBlank
  match rest with
  | m :: more => (field, if isSeparator m then more.dropWhile isBlank else rest)
  | [] => (field, [])

/-- The texts for several variables. -/
def lineFields (separators : List Char) : (names : List String) → List Mark →
    List (String × String)
  | [], _ => []
  | [name], ms => [(name, .ofList ((lastField separators ms).map Mark.c))]
  | name :: names, ms =>
    let (field, rest) := firstField separators ms
    (name, .ofList (field.map Mark.c)) :: lineFields separators names rest

/-- Sets a variable whose name may make no sense. An equals sign ends the name. -/
def assignNamed (word value : String) : Action Unit :=
  let name := String.ofList (word.toList.takeWhile (· ≠ '='))
  modify fun p =>
    if !p.isRunning then p
    else if isName name.toList then p.assign name value
    else p.fail (name ++ ": bad variable name")

/-- Reads a line into variables. -/
def readLine (ws : List String) : Action Nat :=
  withOptions [⟨'r', "", .absent⟩, ⟨'p', "", .needed⟩] ws fun o => do
    if o.operands.isEmpty then failing "arg count"
    else
      let p ← get
      let (ms, n, isEnded) := inputLine (o.has 'r') ((p.pending 0).getD [])
      set (p.take 0 n)
      for field in lineFields p.separators o.operands ms do
        assignNamed field.1 field.2
      let p ← get
      return if !p.isRunning then 2 else if isEnded then 0 else 1

end CrossCheck.Host.Shell
