import CrossCheck.Host.Shell.Script.Word

/-!
# Reading tokens

The text of a script is a sequence of words and operators. Behind the newline that ends a line come
the here-documents that the line asks for.
-/

namespace CrossCheck.Host.Shell

/-- The operators, longer ones before those that they begin with. -/
def operators : List String :=
  ["&&", "||", ";;", ";", "&", "|", "(", ")", "\n"]

/-- The operators of redirections, longer ones before those that they begin with. -/
def redirectionOperators : List String :=
  ["<<-", "<<", "<&", "<>", "<", ">>", ">|", ">&", ">"]

/-- Words that stand for themselves at the front of a command. -/
def keywords : List String :=
  ["!", "\x7b", "\x7d", "case", "do", "done", "elif", "else", "esac", "fi", "for", "if", "in",
    "then", "until", "while"]

/-- The keyword or other plain word that a token is. -/
def Token.plain? : Token → Option String
  | .word w => Shell.plain? w
  | _ => none

/-- The first of several texts with which a text begins. -/
def leading? (texts : List String) (s : List Char) : Option String :=
  texts.find? fun t => t.toList.isPrefixOf s

/-- The text without the space and the comment at its front, with the number of its line. -/
def skipSpace : (inComment : Bool) → (line : Nat) → List Char → List Char × Nat
  | false, line, '\\' :: '\n' :: s => skipSpace false (line + 1) s
  | false, line, c :: s =>
    if c = ' ' || c = '\t' then skipSpace false line s
    else if c = '#' then skipSpace true line s
    else (c :: s, line)
  | true, line, c :: s => if c = '\n' then (c :: s, line) else skipSpace true line s
  | _, line, [] => ([], line)

namespace Source

/-- Reads a here-document in which nothing stands for anything else, from the front of a line on. -/
def literalDocument : (lines : Nat) → Read Word
  | 0 => return []
  | lines + 1 => do
    if ← skipsMark then return []
    let line ← takeWhile (· ≠ '\n')
    let text := line.map (Part.char true)
    if (← get).rest.isEmpty then return text
    else
      advance
      return text ++ .char true '\n' :: (← literalDocument lines)

/-- Reads the here-documents that are due. -/
def readDocuments (script : (closed : Bool) → Read Script) : List Awaited → Read Unit
  | [] => return
  | d :: more => do
    modify fun s => { s with document := some d }
    let length := (← get).rest.length
    let w ← if d.isLiteral then literalDocument (length + 1)
      else if ← skipsMark then pure []
      else parts script (length + 1) .document
    modify fun s => { s with document := none, documents := (d.number, w) :: s.documents }
    readDocuments script more

/-- Reads the here-documents that the line before asks for, if they come next. -/
def readAwaited (script : (closed : Bool) → Read Script) : Read Unit := do
  let s ← get
  if s.isDue then
    set { s with awaited := [], isDue := false }
    readDocuments script s.awaited

/-- Reads a token off the text. With `bare` it is a word in which nothing stands for anything else.
-/
def textToken (script : (closed : Bool) → Read Script) (bare : Bool) : Read Token := do
  let rest := (← get).rest
  if rest.isEmpty then return .ended
  match leading? operators rest with
  | some op =>
    modify fun s =>
      let s := { s with rest := rest.drop op.length }
      if op = "\n" then { s with line := s.line + 1, isDue := true } else s
    return .operator op
  | none =>
    let w ← parts script (rest.length + 1) (.word bare)
    let rest := (← get).rest
    let (t, rest) := match w, leading? redirectionOperators rest with
      | [], some op => (Token.redirect none op, rest.drop op.length)
      | [.char false c], some op =>
        if c.isDigit then (.redirect (some (c.toNat - 48)) op, rest.drop op.length)
        else (.word w, rest)
      | _, _ => (.word w, rest)
    modify fun s =>
      { s with
        rest
        lastWord := match t with
          | .word w => w
          | _ => s.lastWord }
    return t

/-- The name and the text of the alias that a token is. -/
def alias? (s : Source) (t : Token) : Option (String × String) := do
  let name ← t.plain?
  guard !(keywords.contains name)
  guard !(s.unfoldings.any fun u => u.name = name && u.after ≤ s.rest.length)
  return (name, ← s.aliases.lookup name)

/-- Puts the text of an alias in front of what is to be read. -/
def unfold (name text : String) : Read Unit :=
  modify fun s =>
    let after := s.rest.length
    let u : Unfolding :=
      { name, after, endsBlank := text.toList.getLast?.any fun c => c = ' ' || c = '\t' }
    let others := s.unfoldings.filter fun v => v.after ≤ after
    { s with
      rest := text.toList ++ s.rest
      unfoldings := if text.isEmpty then others else u :: others }

/-- Reads the next token. With `bare` it is a word in which nothing stands for anything else. It may
be an alias if it is `aliased`, or if it comes behind the text of one that ends in a blank. -/
def tokenFrom (script : (closed : Bool) → Read Script) (bare : Bool) :
    (fuel : Nat) → (aliased : Bool) → Read Token
  | 0, _ => return .ended
  | fuel + 1, aliased => do
    readAwaited script
    let s ← get
    let (rest, line) := skipSpace false s.line s.rest
    set { s with rest, line }
    let aliased := aliased || s.unfoldings.any fun u =>
      u.endsBlank && u.after < s.rest.length && rest.length ≤ u.after
    let t ← textToken script bare
    let s ← get
    match if aliased then s.alias? t else none with
    | some (name, text) =>
      unfold name text
      tokenFrom script bare fuel true
    | none => return t

/-- Reads the next token, or takes the one that was put back. -/
def token (script : (closed : Bool) → Read Script) (bare : Bool) : Read Token := do
  let s ← get
  match s.held with
  | some t =>
    set { s with held := none }
    return t
  | none => tokenFrom script bare (s.rest.length + s.aliases.length + 1) false

/-- Goes past newlines. -/
def skipNewlines (script : (closed : Bool) → Read Script) : (fuel : Nat) → Read Unit
  | 0 => return
  | fuel + 1 => do
    match ← token script false with
    | .operator "\n" => skipNewlines script fuel
    | t => hold t

/-- Reads the next token where a command may begin: it may be an alias. There may be newlines in
front of it if they are `skipped`. -/
def firstToken (script : (closed : Bool) → Read Script) (skipped : Bool) : (fuel : Nat) → Read Token
  | 0 => return .ended
  | fuel + 1 => do
    let t ← token script false
    match t, (← get).alias? t with
    | .operator "\n", _ => if skipped then firstToken script skipped fuel else return t
    | _, some (name, text) =>
      unfold name text
      firstToken script skipped fuel
    | _, none => return t

/-- Unfolds the alias that comes next, if one does. -/
def unfoldAliases (script : (closed : Bool) → Read Script) (skipped : Bool) : Read Unit := do
  let s ← get
  hold (← firstToken script skipped (s.rest.length + s.aliases.length + 2))

end Source

end CrossCheck.Host.Shell
