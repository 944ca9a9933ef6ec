import CrossCheck.Host.Shell.Builtin.Read

/-!
# Commands that change the shell

Variables, parameters, options, aliases, and the mask for new files.
-/

namespace CrossCheck.Host.Shell

/-! ### Variables -/

/-- Variables in a form in which they can be read again, in the order of their names. -/
def showVariables (command : String) (vs : List (String × Option String)) : Action Unit := do
  for v in vs.mergeSort (fun a b => decide (a.1 ≤ b.1)) do
    let value := match v.2 with
      | some s => "=" ++ singleQuoted s
      | none => ""
    put (command ++ v.1 ++ value ++ "\n")

/-- The name in front of an equals sign, and what follows it. -/
def splitAssignment (w : String) : String × Option String :=
  let name := w.toList.takeWhile (· ≠ '=')
  match w.toList.drop name.length with
  | _ :: value => (.ofList name, some (.ofList value))
  | [] => (w, none)

/-- Marks variables, and sets those that come with a value. -/
def markVariables (command : String) (isMarked : Variable → Bool) (mark : Variable → Variable)
    (ws : List String) : Action Nat :=
  withOptions (flags "p") ws fun o => do
    if o.operands.isEmpty || o.has 'p' then
      let p ← get
      showVariables (command ++ " ") <|
        (p.bindings.filter fun v => isMarked v.2).map fun v => (v.1, v.2.value)
      return 0
    else eachWord one o.operands
where
  /-- Marks a variable. -/
  one (w : String) : Action Nat := do
    let (name, value) := splitAssignment w
    if !isName name.toList then failing (name ++ ": bad variable name")
    else
      match value with
      | some s => modify fun p => p.assign name s
      | none => pure ()
      modify fun p => if p.isRunning then p.setVariable name (mark (p.variableOf name)) else p
      return 0

/-- Drops variables or functions. -/
def unsetNames (ws : List String) : Action Nat :=
  withOptions (flags "vf") ws fun o =>
    let isFunction := (o.given.getLast?.map Given.letter) = some 'f'
    eachWord (fun w => do
      let p ← get
      let name := (splitAssignment w).1
      if isFunction then
        set { p with functions := p.functions.filter fun f => f.1 ≠ w }
        return 0
      else if !isName name.toList then failing (name ++ ": bad variable name")
      else if (p.variableOf name).readOnly then failing (name ++ ": is read only")
      else
        set (p.dropVariable name)
        return 0) o.operands

/-- Makes variables local to a function. -/
def localNames (ws : List String) : Action Nat := do
  if (← get).locals.isEmpty then failing "not in a function"
  else
    eachWord (fun w => do
      let (name, value) := splitAssignment w
      if name = "-" then return 0
      else if !isName name.toList then failing (name ++ ": bad variable name")
      else
        modify fun p =>
          let p := p.makeLocal name
          match value with
          | some s => p.assign name s
          | none => p
        return 0) ws

/-! ### Parameters and options -/

/-- The letters of options with their names. -/
def optionNames : List (Char × String) :=
  [('e', "errexit"), ('f', "noglob"), ('I', "ignoreeof"), ('i', "interactive"), ('m', "monitor"),
    ('n', "noexec"), ('s', "stdin"), ('x', "xtrace"), ('v', "verbose"), ('V', "vi"),
    ('E', "emacs"), ('C', "noclobber"), ('a', "allexport"), ('b', "notify"), ('u', "nounset"),
    ('p', "privileged"), ('l', "nolog"), ('d', "debug")]

/-- Switches an option. -/
def Process.switch (p : Process) (on : Bool) (letter : Char) : Process :=
  let others := p.options.filter (· ≠ letter)
  { p with options := if on then letter :: others else others }

/-- The options that are set by words, and the words after them. -/
structure Setting where
  process : Process
  rest : List String := []
  /-- There was a mark that the options end. -/
  isEnded : Bool := false
  /-- The word that has no name of an option after it: whether it is to switch one on. -/
  shows : Option Bool := none
  /-- The script is the word after the options. -/
  hasScript : Bool := false
  fault : Option String := none

/-- Switches the options of letters, given the words after them; the letter `o` stands for a name.
-/
def Setting.letters (s : Setting) (on start : Bool) : List Char → Setting
  | [] => s
  | c :: cs =>
    if s.fault.isSome then s
    else if c = 'o' then
      match s.rest with
      | [] => { s with shows := some on }.letters on start cs
      | name :: rest =>
        match optionNames.find? fun o => o.2 = name with
        | some o =>
          { s with process := s.process.switch on o.1, rest }.letters on start cs
        | none => { s with fault := some ("Illegal option -o " ++ name) }
    else if c = 'c' && start then { s with hasScript := true }.letters on start cs
    else if c = 'l' && start then s.letters on start cs
    else if c ≠ 'l' && c ≠ 'd' && optionNames.any fun o => o.1 = c then
      { s with process := s.process.switch on c }.letters on start cs
    else { s with fault := some ("Illegal option -" ++ .singleton c) }

/-- Sets the options at the front of words; `start` if they are those of a shell that starts. -/
def setting (start : Bool) (p : Process) (ws : List String) : Setting :=
  go (ws.length + 1) { process := p, rest := ws }
where
  /-- Sets the options of at most `n` words. -/
  go : (n : Nat) → Setting → Setting
    | 0, s => s
    | n + 1, s =>
      match s.rest with
      | [] => s
      | w :: rest =>
        match w.toList with
        | ['-'] =>
          let p := if start then s.process else (s.process.switch false 'x').switch false 'v'
          { s with process := p, rest }
        | ['-', '-'] => { s with rest, isEnded := true }
        | sign :: cs =>
          if sign = '-' || sign = '+' then
            let s := { s with rest }.letters (sign = '-') start cs
            if s.fault.isSome then s else go n s
          else s
        | [] => s

/-- Sets options and parameters, or shows variables. -/
def setCommand (ws : List String) : Action Nat := do
  let p ← get
  if ws.isEmpty then
    showVariables "" (p.bindings.filterMap fun v => v.2.value.map fun value => (v.1, some value))
    return 0
  let s := setting false p ws
  match s.fault with
  | some message => failing message
  | none =>
    set (if s.rest.isEmpty && !s.isEnded then s.process
      else { s.process with arguments := s.rest, optionOffset := 0 })
    match s.shows with
    | some true =>
      put "Current option settings\n"
      for o in optionNames do
        let blanks := String.ofList (List.replicate (16 - o.2.length) ' ')
        put (o.2 ++ blanks ++ (if s.process.has o.1 then "on" else "off") ++ "\n")
    | some false =>
      for o in optionNames do
        put ("set " ++ (if s.process.has o.1 then "-o " else "+o ") ++ o.2 ++ "\n")
    | none => pure ()
    return 0

/-- Drops the first parameters. -/
def shift (ws : List String) : Action Nat := do
  let p ← get
  withNumber (ws.headD "1") fun n =>
    if p.arguments.length < n then failing "can't shift that many"
    else do
      set { p with arguments := p.arguments.drop n, optionOffset := 0 }
      return 0

/-- Takes the next option off the parameters or the given words. -/
def nextOption (letters name : String) (words : List String) : Action Nat := do
  let p ← get
  let i := ((p.value? "OPTIND").bind fun s => natural? s.toList).getD 1
  let i := if i < 1 || words.length + 1 < i then 1 else i
  let offset := if words.length + 1 < i then 0 else p.optionOffset
  let current : List Char := if i ≤ 1 || offset = 0 then []
    else ((words[i - 2]?).getD "").toList.drop offset
  let next := ((words[i - 1]?).getD "").toList
  let isFresh := current.isEmpty
  let cs := if isFresh then next.tail else current
  let finish (i offset : Nat) (letter : Char) (status : Nat) : Action Nat := do
    assignNamed "OPTIND" i.repr
    assignNamed name (.singleton letter)
    modify fun p => { p with optionOffset := offset }
    return if (← get).isRunning then status else 2
  if isFresh && (next.head? ≠ some '-' || cs.isEmpty) then finish i 0 '?' 1
  else if isFresh && cs = ['-'] then finish (i + 1) 0 '?' 1
  else
    let i := if isFresh then i + 1 else i
    let length := ((words[i - 2]?).getD "").length
    let isQuiet := letters.toList.head? = some ':'
    let known := letters.toList.filter (· ≠ ':')
    match cs with
    | [] => finish i 0 '?' 1
    | c :: more =>
      let offset := if more.isEmpty then 0 else length - more.length
      let complain (message : String) (quiet : Char) : Action Nat := do
        if isQuiet then assignNamed "OPTARG" (.singleton c)
        else modify fun p => (p.write 2 (message ++ "\n").toList).dropVariable "OPTARG"
        finish i offset (if isQuiet then quiet else '?') 0
      if !known.contains c then complain ("Illegal option -" ++ .singleton c) '?'
      else if ((letters.toList.dropWhile (· ≠ c)).drop 1).head? ≠ some ':' then
        assignNamed "OPTARG" ""
        finish i offset c 0
      else if !more.isEmpty then
        assignNamed "OPTARG" (.ofList more)
        finish i 0 c 0
      else
        match words[i - 1]? with
        | some value =>
          assignNamed "OPTARG" value
          finish (i + 1) 0 c 0
        | none => complain ("No arg for -" ++ .singleton c ++ " option") ':'

/-- Takes the next option, as its arguments say. -/
def getopts : List String → Action Nat
  | letters :: name :: words => do
    let p ← get
    nextOption letters name (if words.isEmpty then p.arguments else words)
  | _ => failing "Usage: getopts optstring var [arg...]"

/-! ### Aliases and the mask -/

/-- The name and the text of an alias. An equals sign at the front belongs to the name. -/
def splitAlias (w : String) : String × Option String :=
  let first := String.ofList (w.toList.take 1)
  let (name, text) := splitAssignment (.ofList (w.toList.drop 1))
  (first ++ name, text)

/-- The place of an alias among the shown ones; those of one place are shown in the order in which
they were set. -/
def aliasPlace (name : String) : Nat :=
  let codes := name.toList.map Char.toNat
  codes.foldl (· + ·) (16 * codes.headD 0) % 39

/-- Sets an alias. -/
def Process.setAlias (p : Process) (name text : String) : Process :=
  { p with aliases := if p.aliases.any fun a => a.1 = name then
      p.aliases.map fun a => if a.1 = name then (name, text) else a
    else p.aliases ++ [(name, text)] }

/-- Sets or shows aliases. -/
def aliasNames (ws : List String) : Action Nat := do
  let p ← get
  let shown (a : String × String) : String := a.1 ++ "=" ++ singleQuoted a.2 ++ "\n"
  if ws.isEmpty then
    put (.join ((p.aliases.mergeSort fun a b => aliasPlace a.1 ≤ aliasPlace b.1).map shown))
    return 0
  else
    eachWord (fun w => do
      let p ← get
      match splitAlias w with
      | (name, some text) =>
        set (p.setAlias name text)
        return 0
      | (name, none) =>
        match p.aliases.lookup name with
        | some text =>
          put (shown (name, text))
          return 0
        | none =>
          set (p.write 2 ("alias: " ++ name ++ " not found\n").toList)
          return 1) ws

/-- Drops aliases. -/
def unaliasNames (ws : List String) : Action Nat :=
  withOptions (flags "a") ws fun o => do
    if o.has 'a' then
      modify fun p => { p with aliases := [] }
      return 0
    else
      eachWord (fun name => do
        let p ← get
        if (p.aliases.lookup name).isSome then
          set { p with aliases := p.aliases.filter fun a => a.1 ≠ name }
          return 0
        else
          set (p.write 2 ("unalias: " ++ name ++ " not found\n").toList)
          return 1) o.operands

/-- The mask in octal digits. -/
def octalMask (mask : Nat) : String :=
  let digits := Nat.toDigits 8 mask
  .ofList (List.replicate (4 - digits.length) '0' ++ digits)

/-- The mask in letters. -/
def letterMask (mask : Nat) : String :=
  let letters (n : Nat) : List Char :=
    [(4, 'r'), (2, 'w'), (1, 'x')].filterMap fun b => if n &&& b.1 = 0 then some b.2 else none
  let who (name : String) (shift : Nat) : String :=
    name ++ "=" ++ .ofList (letters (mask >>> shift))
  who "u" 6 ++ "," ++ who "g" 3 ++ "," ++ who "o" 0

/-- The places of the rights of those that letters name in a mode; without a letter it is all. -/
def rightPlaces (who : List Char) : List Nat :=
  [('u', 6), ('g', 3), ('o', 0)].filterMap fun place =>
    if who.isEmpty || who.contains 'a' || who.contains place.1 then some place.2 else none

/-- The rights that a letter stands for in a mode. -/
def rights? (mode : Nat) : Char → Option Nat
  | 'r' => some 4
  | 'w' => some 2
  | 'x' => some 1
  | 'X' => some (if mode &&& 73 = 0 then 0 else 1)
  | 's' => some 0
  | 'u' => some (mode >>> 6 % 8)
  | 'g' => some (mode >>> 3 % 8)
  | 'o' => some (mode % 8)
  | _ => none

/-- The mode after the changes of a clause, such as `+r-w`, to the rights at some places. -/
def changedMode (places : List Nat) : (fuel : Nat) → (mode : Nat) → List Char → Option Nat
  | _, mode, [] => some mode
  | 0, _, _ => none
  | fuel + 1, mode, sign :: s => do
    guard ("=+-".toList.contains sign)
    let letters := s.takeWhile fun c => !"=+-".toList.contains c
    let rights := (← letters.mapM (rights? mode)).foldl (· ||| ·) 0
    let change (mode place : Nat) : Nat :=
      let old := mode >>> place % 8
      let new := if sign = '=' then rights
        else if sign = '+' then old ||| rights
        else old &&& (7 - rights)
      mode - (old <<< place) + (new <<< place)
    changedMode places fuel (places.foldl change mode) (s.drop letters.length)

/-- The mask of new files that is written in letters. -/
def maskOf? (mask : Nat) (s : List Char) : Option Nat := do
  let clauses := s.splitOn ','
  let clauses := if clauses.getLast? = some [] then clauses.dropLast else clauses
  let change (mode : Nat) (clause : List Char) : Option Nat := do
    let who := clause.takeWhile "ugoa".toList.contains
    let changes := clause.drop who.length
    guard !changes.isEmpty
    changedMode (rightPlaces who) changes.length mode changes
  return 511 - (← clauses.foldlM change (511 - mask))

/-- Sets or shows the mask. -/
def umask (ws : List String) : Action Nat :=
  withOptions (flags "S") ws fun o => do
    let p ← get
    match o.operands with
    | [] =>
      put ((if o.has 'S' then letterMask p.mask else octalMask p.mask) ++ "\n")
      return 0
    | w :: _ =>
      if w.toList.head?.any Char.isDigit then
        let n := w.toList.foldl (fun n c => 8 * n + (c.toNat - 48)) 0
        if (w.toList.all fun c => '0' ≤ c && c ≤ '7') && n < 1 <<< 31 then
          set { p with mask := n % 512 }
          return 0
        else failing ("Illegal number: " ++ w)
      else
        match maskOf? p.mask w.toList with
        | some n =>
          set { p with mask := n }
          return 0
        | none => failing ("Illegal mode: " ++ w)

end CrossCheck.Host.Shell
