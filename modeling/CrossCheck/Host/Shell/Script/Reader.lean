import CrossCheck.Host.Shell.Script.Token

/-!
# Reading scripts

The readers below take the commands of a script off its text. Each of them goes on at least one
token before it calls itself again, or calls one of a bounded number of others, so that the fuel
that `Script.next` gives them is never used up.

* `Script.next` : the commands on the next line of a script
-/

namespace CrossCheck.Host.Shell

/-- Keywords that end a list of commands. -/
def closers : List String :=
  ["\x7d", "do", "done", "elif", "else", "esac", "fi", "then"]

/-- Commands of the shell whose names no function can have. -/
def specialCommands : List String :=
  [".", ":", "break", "continue", "eval", "exec", "exit", "export", "local", "readonly", "return",
    "set", "shift", "times", "trap", "unset"]

/-- The name of a token in a message. -/
def Token.label (t : Token) : String :=
  match t with
  | .operator op => if op = "\n" then "newline" else "\"" ++ op ++ "\""
  | .redirect _ _ => "redirection"
  | .ended => "end of file"
  | .word _ =>
    match t.plain?.filter keywords.contains with
    | some keyword => "\"" ++ keyword ++ "\""
    | none => "word"

/-- The name of a token in a message, in a place where keywords are words like others. -/
def Token.wordLabel (t : Token) : String :=
  match t with
  | .word _ => "word"
  | t => t.label

/-- The token ends a list of commands. -/
def Token.closes (t : Token) : Bool :=
  match t with
  | .ended => true
  | .operator op => op = ")" || op = ";;"
  | .redirect _ _ => false
  | .word _ => t.plain?.any closers.contains

/-- There are quotes in a word. -/
def hasQuotes (w : Word) : Bool :=
  w.any fun part =>
    match part with
    | .char quoted _ => quoted
    | .quotes => true
    | _ => false

/-- Where a list of commands stands. -/
inductive ListPlace where
  /-- A line of a script. -/
  | line
  /-- A part of a command that must not be empty. -/
  | required
  | optional
  deriving DecidableEq, Repr

namespace Source

/-- Refuses a token. -/
def refuse {α : Type} (t : Token) : Read α :=
  fail (.unexpected t.label)

/-- Refuses a token in the place of another one. -/
def refuseFor {α : Type} (t : Token) (expected : String) : Read α :=
  fail (.missing t.label ("\"" ++ expected ++ "\""))

/-- A reader of the scripts in words. -/
abbrev Inner := (closed : Bool) → Read Script

/-- Goes past a keyword. -/
def expectWord (script : Inner) (word : String) : Read Unit := do
  let t ← token script false
  if t.plain? ≠ some word then refuseFor t word

/-- Goes past an operator. -/
def expectOperator (script : Inner) (op : String) : Read Unit := do
  match ← token script false with
  | .operator found => if found ≠ op then refuseFor (.operator found) op
  | t => refuseFor t op

/-- Reads the word after the operator of a redirection. -/
def redirection (script : Inner) (stream : Option Nat) (op : String) : Read Redirection := do
  let isDocument := op = "<<" || op = "<<-"
  match ← token script isDocument with
  | .word w =>
    let file (default : Nat) (mode : OpenMode) : Redirection := .file (stream.getD default) mode w
    match op with
    | "<" => return file 0 .read
    | "<>" => return file 0 .both
    | ">" => return file 1 .write
    | ">|" => return file 1 .overwrite
    | ">>" => return file 1 .append
    | "<&" => return .copy (stream.getD 0) w
    | ">&" => return .copy (stream.getD 1) w
    | _ =>
      let s ← get
      let d : Awaited :=
        { number := s.nextDocument, delimiter := literalText w, isLiteral := hasQuotes w
          dropsTabs := op = "<<-" }
      set { s with awaited := s.awaited ++ [d], nextDocument := s.nextDocument + 1 }
      return .document (stream.getD 0) d.number
  | t => refuse t

/-- Reads redirections. -/
def redirections (script : Inner) : (fuel : Nat) → Read (List Redirection)
  | 0 => return []
  | fuel + 1 => do
    match ← token script false with
    | .redirect stream op =>
      let r ← redirection script stream op
      return r :: (← redirections script fuel)
    | t =>
      hold t
      return []

/-- Reads words up to something else, which it gives too. -/
def words (script : Inner) : (fuel : Nat) → Read (List Word × Token)
  | 0 => return ([], .ended)
  | fuel + 1 => do
    match ← token script false with
    | .word w =>
      let (ws, t) ← words script fuel
      return (w :: ws, t)
    | t => return ([], t)

/-- Reads the patterns of an arm from the given token on, up to the closing parenthesis. In the
place of a token that is no word stands the last one that was. -/
def patterns (script : Inner) : (fuel : Nat) → Token → Read (List Word)
  | 0, t => refuse t
  | fuel + 1, t => do
    let w ← match t with
      | .word w => pure w
      | _ => pure (← get).lastWord
    match ← token script false with
    | .operator "|" => return w :: (← patterns script fuel (← token script false))
    | .operator ")" => return [w]
    | t => fail (.missing t.wordLabel "\")\"")

mutual

/-- Reads a script in a word, up to a closing parenthesis or to the end of the text. -/
def script : (fuel : Nat) → Inner
  | 0, _ => return .nothing
  | fuel + 1, closed => do
    let awaited := (← get).awaited
    modify fun s => { s with awaited := [], isDue := false }
    let body ← list fuel .optional
    if closed then expectOperator (script fuel) ")"
    modify fun s => { s with awaited := awaited ++ s.awaited, isDue := false, held := none }
    return body

/-- Reads a list of commands. -/
def list : (fuel : Nat) → ListPlace → Read Script
  | 0, _ => return .nothing
  | fuel + 1, place => do
    unfoldAliases (script fuel) (place ≠ .line)
    let t ← token (script fuel) false
    match place, t with
    | .line, .operator "\n" => return .nothing
    | _, .ended =>
      hold .ended
      return .nothing
    | _, _ =>
      hold t
      if place = .optional && t.closes then return .nothing
      let first ← conditional fuel (← pipeline fuel)
      let next := if place = .line then ListPlace.line else .optional
      let followed (first : Script) : Read Script := do
        match ← list fuel next with
        | .nothing => return first
        | second => return .sequence first second
      match ← token (script fuel) false with
      | .operator "&" => followed (.background first)
      | .operator ";" => followed first
      | .operator "\n" =>
        hold (.operator "\n")
        followed first
      | .ended =>
        hold .ended
        return first
      | t =>
        if place = .line then refuse t
        hold t
        return first

/-- Reads what follows a pipeline: further ones after `&&` and `||`. -/
def conditional : (fuel : Nat) → Script → Read Script
  | 0, first => return first
  | fuel + 1, first => do
    match ← token (script fuel) false with
    | .operator "&&" =>
      unfoldAliases (script fuel) true
      conditional fuel (.both first (← pipeline fuel))
    | .operator "||" =>
      unfoldAliases (script fuel) true
      conditional fuel (.either first (← pipeline fuel))
    | t =>
      hold t
      return first

/-- Reads a pipeline. -/
def pipeline : (fuel : Nat) → Read Script
  | 0 => return .nothing
  | fuel + 1 => do
    let t ← token (script fuel) false
    if t.plain? = some "!" then
      unfoldAliases (script fuel) false
      return .negation (← piped fuel (← command fuel))
    hold t
    piped fuel (← command fuel)

/-- Reads what follows the first command of a pipeline. -/
def piped : (fuel : Nat) → Script → Read Script
  | 0, first => return first
  | fuel + 1, first => do
    match ← token (script fuel) false with
    | .operator "|" =>
      unfoldAliases (script fuel) true
      let second ← command fuel
      match ← piped fuel second with
      | .pipeline parts => return .pipeline (first :: parts)
      | only => return .pipeline [first, only]
    | t =>
      hold t
      return first

/-- Reads a command. -/
def command : (fuel : Nat) → Read Script
  | 0 => return .nothing
  | fuel + 1 => do
    let t ← token (script fuel) false
    let line := (← get).line
    let redirected (body : Script) : Read Script := do
      match ← redirections (script fuel) (fuel + 1) with
      | [] => return body
      | rs => return .redirected line body rs
    match t with
    | .redirect _ _ =>
      hold t
      simple fuel line [] [] []
    | .operator "(" =>
      let body ← list fuel .required
      expectOperator (script fuel) ")"
      return .subshell line body (← redirections (script fuel) (fuel + 1))
    | .word _ =>
      match t.plain?.filter keywords.contains with
      | none =>
        hold t
        simple fuel line [] [] []
      | some "\x7b" =>
        let body ← list fuel .required
        expectWord (script fuel) "\x7d"
        redirected body
      | some "if" => redirected (← branch fuel)
      | some "while" => redirected (← loop fuel false)
      | some "until" => redirected (← loop fuel true)
      | some "for" => redirected (← each fuel line)
      | some "case" =>
        match ← token (script fuel) false with
        | .word w =>
          skipNewlines (script fuel) (fuel + 1)
          expectWord (script fuel) "in"
          redirected (.choice line w (← arms fuel))
        | t => fail (.missing t.label "word")
      | some _ => refuse t
    | _ => refuse t

/-- Reads what is left of a simple command, or of the definition of a function. -/
def simple : (fuel : Nat) → (line : Nat) → List Word → List Word → List Redirection → Read Script
  | 0, _, _, _, _ => return .nothing
  | fuel + 1, line, assignments, ws, rs => do
    if ws.isEmpty then unfoldAliases (script fuel) false
    match ← token (script fuel) false with
    | .word w =>
      if ws.isEmpty && (assignment? w).isSome then
        simple fuel line (assignments ++ [w]) ws rs
      else simple fuel line assignments (ws ++ [w]) rs
    | .redirect stream op =>
      let r ← redirection (script fuel) stream op
      simple fuel line assignments ws (rs ++ [r])
    | t =>
      match t, assignments, ws, rs with
      | .operator "(", [], [w], [] =>
        match ← token (script fuel) false with
        | .operator ")" => pure ()
        | t => fail (.missing t.wordLabel "\")\"")
        let mayBe (name : String) : Bool := isName name.toList && !specialCommands.contains name
        match (plain? w).filter mayBe with
        | some name =>
          unfoldAliases (script fuel) true
          let line := (← get).line
          return .function line name (← command fuel)
        | none => fail .badFunctionName
      | _, _, _, _ =>
        hold t
        return .simple line assignments ws rs

/-- Reads what follows `if` or `elif`, up to `fi`. -/
def branch : (fuel : Nat) → Read Script
  | 0 => return .nothing
  | fuel + 1 => do
    let condition ← list fuel .required
    expectWord (script fuel) "then"
    let yes ← list fuel .required
    let t ← token (script fuel) false
    match t.plain? with
    | some "elif" => return .branch condition yes (some (← branch fuel))
    | some "else" =>
      let no ← list fuel .required
      expectWord (script fuel) "fi"
      return .branch condition yes (some no)
    | some "fi" => return .branch condition yes none
    | _ => refuseFor t "fi"

/-- Reads what follows `while` or `until`, up to `done`. -/
def loop : (fuel : Nat) → (inverted : Bool) → Read Script
  | 0, _ => return .nothing
  | fuel + 1, inverted => do
    let condition ← list fuel .required
    expectWord (script fuel) "do"
    let body ← list fuel .required
    expectWord (script fuel) "done"
    return .loop inverted condition body

/-- Reads what follows `for`, up to `done`. -/
def each : (fuel : Nat) → (line : Nat) → Read Script
  | 0, _ => return .nothing
  | fuel + 1, line => do
    let t ← token (script fuel) false
    match t.plain?.filter fun name => isName name.toList with
    | none => fail .badLoopVariable
    | some name =>
      skipNewlines (script fuel) (fuel + 1)
      let t ← token (script fuel) false
      let values ← if t.plain? = some "in" then
          let (ws, t) ← words (script fuel) (fuel + 1)
          match t with
          | .operator "\n" | .operator ";" => pure ws
          | t => refuse t
        else
          match t with
          | .operator ";" => pure ()
          | t => hold t
          pure [[.quotes, .parameter true "@" .value, .quotes]]
      skipNewlines (script fuel) (fuel + 1)
      expectWord (script fuel) "do"
      let body ← list fuel .required
      expectWord (script fuel) "done"
      return .each line name values body

/-- Reads the arms of a choice, up to `esac`. -/
def arms : (fuel : Nat) → Read (List (List Word × Script))
  | 0 => return []
  | fuel + 1 => do
    skipNewlines (script fuel) (fuel + 1)
    let t ← token (script fuel) false
    if t.plain? = some "esac" then return []
    let t ← match t with
      | .operator "(" => token (script fuel) false
      | t => pure t
    let ps ← patterns (script fuel) (fuel + 1) t
    let body ← list fuel .optional
    skipNewlines (script fuel) (fuel + 1)
    let t ← token (script fuel) false
    match t with
    | .operator ";;" => return (ps, body) :: (← arms fuel)
    | t => if t.plain? = some "esac" then return [(ps, body)] else refuseFor t ";;"

end

/-- The fuel for the readers of a text. -/
def fuel (s : Source) : Nat :=
  8 * s.rest.length + 64

end Source

/-- Reads the commands on the next line of a script; `none` at its end. -/
def Script.next : Read (Option Script) := do
  let fuel := (← get).fuel
  Source.unfoldAliases (Source.script fuel) false
  match ← Source.token (Source.script fuel) false with
  | .ended => return none
  | .operator "\n" => return some .nothing
  | t =>
    Source.hold t
    let body ← Source.list fuel .line
    modify fun s => { s with held := none }
    Source.readAwaited (Source.script fuel)
    return some body

end CrossCheck.Host.Shell
