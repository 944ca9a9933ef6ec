import CrossCheck.Host.Shell.Pattern
import CrossCheck.Host.Tool.Call
import CrossCheck.Host.Tool.Escape
import CrossCheck.Host.Tool.Quoted

/-!
# The tool `tr`

Octets are exchanged, left out, or written once where they stand several times in a row. The sets of
octets are written with ranges, classes and repetitions.

* `OctetSet.read` : the items of a set
* `OctetSet.octets` : the octets of a set in order
-/

namespace CrossCheck.Host

/-- An item of a set of octets. -/
inductive OctetItem where
  | range (first last : Char)
  | group (name : String)
  | equals (c : Char)
  /-- An octet several times; with 0, as often as it takes to fill the set up. -/
  | repeated (c : Char) (times : Nat)
  deriving DecidableEq, Repr

/-- A set of octets as it is written. -/
abbrev OctetSet := List OctetItem

/-- All octets. -/
def allOctets : List Char :=
  (List.range 256).map Char.ofNat

namespace OctetItem

/-- The octets of an item; `fill` is how often one is repeated that fills the set up. -/
def octets (fill : Nat) : OctetItem → List Char
  | .range first last => allOctets.filter fun c => first ≤ c && c ≤ last
  | .group name => allOctets.filter (Shell.inClass name)
  | .equals c => [c]
  | .repeated c times => List.replicate (if times = 0 then fill else times) c

/-- An item that fills the set up. -/
def fills : OctetItem → Bool
  | .repeated _ 0 => true
  | _ => false

/-- A class of letters in one case. -/
def isCase : OctetItem → Bool
  | .group name => name = "upper" || name = "lower"
  | _ => false

end OctetItem

namespace OctetSet

/-- The octets of a text with its escapes replaced. What was escaped is marked. -/
def marks (s : List Char) : List Shell.Mark :=
  match s with
  | [] => []
  | c :: s =>
    if c ≠ '\\' then ⟨false, c⟩ :: marks s
    else
      match s with
      | [] => [⟨false, '\\'⟩]
      | d :: rest =>
        let octal := ((d :: rest).take 3).takeWhile isOctal
        let value (ds : List Char) : Nat := ds.foldl (fun v c => 8 * v + (c.toNat - 48)) 0
        let octal := if value octal < 256 then octal else octal.dropLast
        if !octal.isEmpty then ⟨true, octetOf (value octal)⟩ :: marks (rest.drop (octal.length - 1))
        else ⟨true, if d = 'e' then d else (letterOctet? d).getD d⟩ :: marks rest
  termination_by s.length
  decreasing_by all_goals simp only [List.length_cons, List.length_drop]; omega

/-- The text between a mark at the front and the same mark in front of a closing bracket. -/
def between? (mark : Char) : List Shell.Mark → Option (List Char)
  | ⟨false, a⟩ :: ⟨false, b⟩ :: rest =>
    if a = mark && b = ']' then some [] else (between? mark (⟨false, b⟩ :: rest)).map (a :: ·)
  | m :: rest => (between? mark rest).map (m.c :: ·)
  | [] => none

/-- Reads what follows an opening bracket that is no octet of its own: the item, and how many octets
it takes up. -/
def bracketed? (ms : List Shell.Mark) : Except String (Option (OctetItem × Nat)) :=
  let repetition : Except String (Option (OctetItem × Nat)) :=
    match ms with
    | c :: ⟨false, '*'⟩ :: rest =>
      let digits := (rest.takeWhile fun m => m.quoted || m.c ≠ ']').map Shell.Mark.c
      if digits.length = rest.length then .ok none
      else if !digits.all Char.isDigit then
        .error <|
          "invalid repeat count " ++ Quoted.argument (.ofList digits) ++ " in [c*n] construct"
      else
        let times := if digits.head? = some '0' then
            digits.foldl (fun v c => 8 * v + (c.toNat - 48)) 0
          else decimalOf digits
        .ok (some (.repeated c.c times, digits.length + 3))
    | _ => .ok none
  match ms with
  | ⟨false, ':'⟩ :: rest =>
    match between? ':' rest with
    | none => repetition
    | some name =>
      if name.isEmpty then .error "missing character class name '[::]'"
      else if Shell.classNames.contains (.ofList name) then
        .ok (some (.group (.ofList name), name.length + 3))
      else if rest.head? = some ⟨false, '*'⟩ then repetition
      else .error ("invalid character class " ++ Quoted.argument (.ofList name))
  | ⟨false, '='⟩ :: rest =>
    match between? '=' rest with
    | none => repetition
    | some [c] => .ok (some (.equals c, 4))
    | some [] => .error "missing equivalence class character '[==]'"
    | some name =>
      if rest.head? = some ⟨false, '*'⟩ then repetition
      else .error (.ofList name ++ ": equivalence class operand must be a single character")
  | _ => repetition

/-- An octet in a message: as it is, or its octal code. -/
def shown (c : Char) : List Char :=
  if Quoted.isHidden c then
    let digits := Nat.toDigits 8 c.toNat
    '\\' :: List.replicate (3 - digits.length) '0' ++ digits
  else [c]

/-- Reads the items of a set. The octets that belong to an item already are passed over with `skip`.
-/
def items (skip : Nat) : List Shell.Mark → Except String OctetSet
  | [] => .ok []
  | m :: ms =>
    match skip with
    | skip + 1 => items skip ms
    | 0 => do
      let bracket ← if !m.quoted && m.c = '[' then bracketed? ms else .ok none
      match bracket with
      | some (item, n) => return item :: (← items n ms)
      | none =>
        match ms with
        | ⟨false, '-'⟩ :: last :: _ =>
          if last.c < m.c then
            throw ("range-endpoints of '" ++ .ofList (shown m.c ++ ['-'] ++ shown last.c) ++
              "' are in reverse collating sequence order")
          return .range m.c last.c :: (← items 2 ms)
        | _ => return .range m.c m.c :: (← items 0 ms)

/-- The set that a text stands for. -/
def read (s : String) : Except String OctetSet :=
  items 0 (marks s.toList)

/-- The octets of a set in order. -/
def octets (set : OctetSet) (fill : Nat) : List Char :=
  set.flatMap (OctetItem.octets fill)

/-- The octets of a set that is filled up to a length, if there is anything to fill it up with. -/
def filled (set : OctetSet) (length : Nat) : List Char :=
  set.octets (length - (set.octets 0).length)

/-- Where in a set the classes of letters in one case start. -/
def casePlaces (fill : Nat) (start : Nat) : OctetSet → List Nat
  | [] => []
  | item :: rest =>
    let more := casePlaces fill (start + (item.octets fill).length) rest
    if item.isCase then start :: more else more

end OctetSet

/-- What `tr` does. -/
structure Translation where
  complement : Bool
  deletes : Bool
  squeezes : Bool
  truncates : Bool

/-- The text with runs of the same octet written once, if the octet is in a set. -/
def squeezed (set : List Char) (before : Option Char) : Octets → Octets
  | [] => []
  | c :: s =>
    if before = some c && set.contains c then squeezed set before s
    else c :: squeezed set (some c) s

/-- The octets that a set is exchanged for, as many as there are in the set if that can be. -/
def exchangeFor (t : Translation) (set₁ : OctetSet) (old : List Char) (set₂ : OctetSet) :
    Except String (List Char) := do
  let fill := old.length - (set₂.octets 0).length
  let new := set₂.octets fill
  if set₂.any fun item => match item with | .equals _ => true | _ => false then
    throw "[=c=] expressions may not appear in string2 when translating"
  if set₂.any fun item => match item with | .group _ => !item.isCase | _ => false then
    throw ("when translating, the only character classes that may appear in\n" ++
      "string2 are 'upper' and 'lower'")
  let places := set₁.casePlaces 0 0
  let isAlone (place : Nat) : Bool := place ≤ old.length && !places.contains place
  if !t.complement && (set₂.casePlaces fill 0).any isAlone then
    throw "misaligned [:upper:] and/or [:lower:] construct"
  if new.length < old.length && !t.truncates then
    match set₂.getLast?, new.getLast? with
    | some (.group _), _ =>
      throw ("when translating with string1 longer than string2,\n" ++
        "the latter string must not end with a character class")
    | _, some last => return new ++ List.replicate (old.length - new.length) last
    | _, none => throw "when not truncating set1, string2 must be non-empty"
  return new

/-- What becomes of a text. -/
def Translation.apply (t : Translation) (first : String) (second : Option String) (s : Octets) :
    Except String Octets := do
  let set₁ ← OctetSet.read first
  let set₂ ← (second.mapM OctetSet.read : Except String (Option OctetSet))
  let old := set₁.octets 0
  let old := if t.complement then allOctets.filter fun c => !old.contains c else old
  if set₁.any OctetItem.fills then throw "the [c*] repeat construct may not appear in string1"
  if (set₂.any fun set => 1 < (set.filter OctetItem.fills).length) then
    throw "only one [c*] repeat construct may appear in string2"
  match set₂ with
  | none =>
    if t.deletes then return s.filter fun c => !old.contains c
    else return squeezed old none s
  | some set₂ =>
    if t.deletes then
      if set₂.any OctetItem.fills then
        throw "the [c*] construct may appear in string2 only when translating"
      return squeezed (set₂.octets 0) none (s.filter fun c => !old.contains c)
    else
      let new ← exchangeFor t set₁ old set₂
      if t.complement && set₁.any (fun item => match item with | .group _ => true | _ => false) &&
          (new.take old.length).any fun c => some c ≠ new.head? then
        throw ("when translating with complemented character classes,\n" ++
          "string2 must map all characters in the domain to one")
      let exchanges := (old.zip new).reverse
      let s := s.map fun c => (exchanges.lookup c).getD c
      return if t.squeezes then squeezed (set₂.filled old.length) none s else s

namespace Call

/-- The options of `tr`. -/
def trForms : List OptionForm :=
  [⟨'c', "complement", .absent⟩, ⟨'C', "", .absent⟩, ⟨'d', "delete", .absent⟩,
    ⟨'s', "squeeze-repeats", .absent⟩, ⟨'t', "truncate-set1", .absent⟩]

/-- A refusal of the number of operands. -/
def wrongOperands (c : Call) (message : String) (more : Option String) : Effect :=
  let e := c.complain message 1
  let e := match more with
    | some line => { e with err := e.err ++ (line ++ "\n").toList }
    | none => e
  { e with err := e.err ++ ("Try '" ++ c.name ++ " --help' for more information.\n").toList }

/-- The warning that a set ends in a backslash. -/
def slashWarning (c : Call) (set : String) : Octets :=
  if ((set.toList.reverse.takeWhile (· = '\\')).length) % 2 = 1 then
    (c.name ++ ": warning: an unescaped backslash at end of string is not portable\n").toList
  else []

/-- Exchanges octets or leaves them out. -/
def tr (c : Call) : Effect :=
  match Options.readStrict trForms c.arguments with
  | .error ⟨fault, _⟩ => c.misuse fault.message 1
  | .ok o =>
    let t : Translation :=
      { complement := o.has 'c' || o.has 'C', deletes := o.has 'd', squeezes := o.has 's'
        truncates := o.has 't' }
    let least := if t.deletes = t.squeezes then 2 else 1
    let most := if t.deletes && !t.squeezes then 1 else 2
    match o.operands with
    | [] => c.wrongOperands "missing operand" none
    | first :: rest =>
      if rest.length + 1 < least then
        c.wrongOperands ("missing operand after " ++ Quoted.argument first) <| some <|
          if t.squeezes then "Two strings must be given when both deleting and squeezing repeats."
          else "Two strings must be given when translating."
      else
        match rest.drop (most - 1) with
        | extra :: _ =>
          c.wrongOperands ("extra operand " ++ Quoted.argument extra)
            (if rest.length = 1 then
              some "Only one string may be given when deleting without squeezing repeats."
            else none)
        | [] =>
          let warnings := (first :: rest).flatMap c.slashWarning
          match t.apply first rest.head? c.input with
          | .error message =>
            let e := c.complain message 1
            { e with err := warnings ++ e.err }
          | .ok out =>
            match c.inputFault with
            | some fault =>
              let e := c.complain ("read error: " ++ fault.message) 1
              { e with err := warnings ++ e.err }
            | none => { out, err := warnings, taken := c.input.length, tree := c.tree }

end Call

end CrossCheck.Host
