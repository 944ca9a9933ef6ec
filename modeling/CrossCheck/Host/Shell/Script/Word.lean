import CrossCheck.Host.Shell.Script.Source

/-!
# Reading words

What a character means in a word depends on what it stands in: quotes, braces, arithmetic, a
here-document. Each of them is read by `Source.parts` up to its own end. A reader of the scripts in
words is a parameter; it reads up to a closing parenthesis or up to the end of the text.
-/

namespace CrossCheck.Host.Shell

/-- What the parts of a word stand in. -/
inductive Nest where
  /-- A word by itself. With `bare`, dollar signs and backquotes stand for themselves. -/
  | word (bare : Bool)
  | quotes
  /-- Braces after a dollar sign. `quoted` if they stand in quotes, `inner` between further quotes
  in them. -/
  | braces (quoted inner : Bool)
  | document
  /-- Arithmetic, with the number of its parentheses that are open. -/
  | arithmetic (depth : Nat)
  deriving DecidableEq, Repr

/-- What stands there is quoted. -/
def Nest.quoted : Nest → Bool
  | .word _ => false
  | .braces quoted _ => quoted
  | .quotes | .document | .arithmetic _ => true

/-- A character that ends a word. -/
def isMeta (c : Char) : Bool :=
  " \t\n;&|<>()".toList.contains c

/-- A character that is the name of a parameter by itself. -/
def isSpecialParameter (c : Char) : Bool :=
  c.isDigit || "!#$*?@-".toList.contains c

/-- The text up to the next backquote, without the backslashes that are needed only to write it
between backquotes, and what comes after it. -/
def backquoted? (quoted : Bool) : List Char → Option (List Char × List Char)
  | [] => none
  | '\x60' :: s => some ([], s)
  | '\\' :: c :: s => do
    let (text, rest) ← backquoted? quoted s
    if c = '\n' then return (text, rest)
    else if c = '\\' || c = '\x60' || c = '$' || (quoted && c = '"') then return (c :: text, rest)
    else return ('\\' :: c :: text, rest)
  | c :: s => do
    let (text, rest) ← backquoted? quoted s
    return (c :: text, rest)

/-- The character for a kind of alternative. -/
def Alternative.ofChar? (c : Char) : Option Alternative :=
  [('-', .otherwise), ('+', .instead), ('=', .assigned), ('?', .complaint)].lookup c

namespace Source

/-- Reads what stands in braces from a place where it makes no sense. -/
def senseless (inner : Nest → Read Word) (quoted : Bool) : Read Word := do
  let _ ← inner (.braces quoted false)
  return [.parameter quoted "" .senseless]

/-- Reads what stands in braces from a character on that makes no sense, whatever that is. A newline
there is not counted. -/
def misplaced (inner : Nest → Read Word) (quoted : Bool) : Read Word := do
  modify fun s => { s with rest := s.rest.tail }
  senseless inner quoted

/-- Reads what is made of a parameter in braces. -/
def use (inner : Nest → Read Word) (quoted : Bool) (name : String) : Read Word := do
  let alternative (kind : Alternative) (orEmpty : Bool) : Read Word := do
    advance
    return [.parameter quoted name (.alternative kind orEmpty (← inner (.braces quoted false)))]
  let trim (mark : Char) (atEnd : Bool) : Read Word := do
    advance
    let longest ← skips mark
    return [.parameter quoted name (.trim atEnd longest (← inner (.braces false false)))]
  match ← peek with
  | some '}' =>
    advance
    return [.parameter quoted name .value]
  | some '%' => trim '%' true
  | some '#' => trim '#' false
  | some ':' =>
    advance
    match ← peek with
    | some '}' =>
      advance
      return .parameter quoted name .value :: (← inner (.braces quoted false))
    | c =>
      match c.bind Alternative.ofChar? with
      | some kind => alternative kind true
      | none => misplaced inner quoted
  | c =>
    match c.bind Alternative.ofChar? with
    | some kind => alternative kind false
    | none => misplaced inner quoted

/-- Reads the name of a parameter, if there is one. -/
def parameterName? : Read (Option String) := do
  match ← peek with
  | none => return none
  | some c =>
    if isNameStart c then return some (.ofList (← takeWhile isNameChar))
    else if c.isDigit then return some (.ofList (← takeWhile Char.isDigit))
    else return none

/-- Reads what stands in braces after a dollar sign. -/
def braced (inner : Nest → Read Word) (quoted : Bool) : Read Word := do
  match ← parameterName? with
  | some name => use inner quoted name
  | none =>
    match ← peek with
    | some '#' =>
      advance
      match ← parameterName? with
      | some name =>
        if ← skips '}' then return [.parameter quoted name .length] else senseless inner quoted
      | none =>
        match (← get).rest with
        | c :: '}' :: _ =>
          if c = '}' then use inner quoted "#"
          else if isSpecialParameter c then
            advance
            advance
            return [.parameter quoted (.singleton c) .length]
          else misplaced inner quoted
        | _ => use inner quoted "#"
    | some c =>
      if isSpecialParameter c then
        advance
        use inner quoted (.singleton c)
      else if c = '}' then senseless inner quoted
      else misplaced inner quoted
    | none => senseless inner quoted

/-- Reads the script after a parenthesis, which is no part of a here-document that it stands in. -/
def scriptWithin (script : (closed : Bool) → Read Script) : Read Script := do
  let document := (← get).document
  modify fun s => { s with document := none }
  let body ← script true
  modify fun s => { s with document }
  return body

/-- Reads what follows a dollar sign. -/
def dollar (script : (closed : Bool) → Read Script) (inner : Nest → Read Word) (quoted : Bool) :
    Read Word := do
  match ← peek with
  | some '(' =>
    advance
    if ← skips '(' then return [.arithmetic quoted (← inner (.arithmetic 0))]
    else return [.output quoted (← scriptWithin script)]
  | some '{' =>
    advance
    braced inner quoted
  | some c =>
    if isNameStart c then
      return [.parameter quoted (.ofList (← takeWhile isNameChar)) .value]
    else if isSpecialParameter c then
      advance
      return [.parameter quoted (.singleton c) .value]
    else return [.char quoted '$']
  | none => return [.char quoted '$']

/-- Reads the part after a backquote. -/
def backquotes (script : (closed : Bool) → Read Script) (quoted : Bool) : Read Part := do
  match backquoted? quoted (← get).rest with
  | none =>
    modify fun s => { s with line := s.line + s.rest.count '\n' }
    fail .openBackquotes
  | some (text, rest) =>
    let body ← within 1 text (script false)
    modify fun s =>
      { s with
        rest
        line := s.line + (s.rest.take (s.rest.length - rest.length)).count '\n' }
    return .output quoted body

/-- Reads what follows a backslash. In quotes most characters keep the backslash. -/
def escaped (nest : Nest) : Read Word := do
  match (← get).rest.head? with
  | none => return [.char true '\\']
  | some c =>
    advance
    let inBraces := match nest with
      | .braces _ _ => true
      | _ => false
    let needsNone := c = '\\' || c = '\x60' || c = '$' || (c = '"' && nest ≠ .document) ||
      (c = '}' && inBraces)
    if nest.quoted && !needsNone then return [.char true '\\', .char true c]
    else return [.char true c]

/-- What is read at the end of the text or of a here-document. -/
def endOf (nest : Nest) : Read Word := do
  match nest, (← get).document with
  | .word _, _ | .document, _ => return []
  | .quotes, none | .braces true _, none => fail .openQuotes
  | .arithmetic _, _ => fail .openArithmetic
  | _, _ => fail .openBrace

/-- Reads the parts of a word up to the end of what they stand in. -/
def parts (script : (closed : Bool) → Read Script) : (fuel : Nat) → Nest → Read Word
  | 0, nest => endOf nest
  | fuel + 1, nest => do
    let inner := parts script fuel
    let quoted := nest.quoted
    match ← peek with
    | none => endOf nest
    | some c =>
      let itself (nest : Nest) : Read Word := do
        advance
        let isOver ← if c = '\n' then skipsMark else pure false
        return .char quoted c :: (← if isOver then endOf nest else inner nest)
      match nest, c with
      | .word true, '$' | .word true, '\x60' => itself nest
      | .quotes, '"' =>
        advance
        return [.quotes]
      | .document, '"' | .arithmetic _, '"' => itself nest
      | .braces true isInner, '"' =>
        advance
        return .quotes :: (← inner (.braces true !isInner))
      | .braces _ false, '}' =>
        advance
        return []
      | .arithmetic depth, '(' => itself (.arithmetic (depth + 1))
      | .arithmetic (depth + 1), ')' => itself (.arithmetic depth)
      | .arithmetic 0, ')' =>
        advance
        if ← skips ')' then return []
        else return .char true ')' :: (← inner nest)
      | _, '$' =>
        advance
        let first ← dollar script inner quoted
        return first ++ (← inner nest)
      | _, '\x60' =>
        advance
        let part ← backquotes script quoted
        return part :: (← inner nest)
      | _, '\\' =>
        advance
        let first ← escaped nest
        return first ++ (← inner nest)
      | _, '"' =>
        advance
        let first ← inner .quotes
        return .quotes :: first ++ (← inner nest)
      | _, '\'' =>
        if quoted then itself nest
        else
          advance
          let text ← takeWhile (· ≠ '\'')
          if (← get).rest.isEmpty then fail .openQuotes
          advance
          return .quotes :: text.map (.char true) ++ (← inner nest)
      | .word _, _ => if isMeta c then return [] else itself nest
      | _, _ => itself nest

end Source

end CrossCheck.Host.Shell
