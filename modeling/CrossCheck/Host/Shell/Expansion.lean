import CrossCheck.Host.Shell.Arithmetic
import CrossCheck.Host.Shell.Pattern
import CrossCheck.Host.Shell.Process

/-!
# Expansion of words

What the parts of a word stand for takes their place. What came in without quotes is then cut into
fields where the separators stand, and a field may be a pattern of file names.

How the output of a script is found out is a parameter of the functions below.

* `glyphs` : a word with its parts replaced
* `fieldsOf` : the fields that it is cut into
* `expandText` and `expandPattern` : a word that is not cut
-/

namespace CrossCheck.Host.Shell

/-- A piece of an expanded word. -/
inductive Glyph where
  /-- A character, at which a field may end if it `splits`. -/
  | char (c : Char) (quoted splits : Bool)
  /-- A place between two parameters in quotes, where a field ends. -/
  | cut
  /-- A place between two parameters without quotes, which counts as white space. -/
  | gap
  /-- There is a field here even if nothing is in it. -/
  | quotes
  /-- A place where what takes the place of a part begins. -/
  | seam
  deriving DecidableEq, Repr

/-- How a word is expanded. -/
structure Manner where
  substitute : Script → Action Octets
  /-- The parameters stay fields of their own. -/
  full : Bool := false
  /-- The word is an alternative in braces: its characters come in like a value. -/
  inner : Bool := false
  /-- Home directories are meant behind colons too. -/
  colons : Bool := false

/-- The characters of a text that takes the place of a part. -/
def characters (quoted : Bool) (s : List Char) : List Glyph :=
  s.map fun c => .char c quoted (!quoted)

/-- The pieces of a text that takes the place of a part. -/
def standIn (quoted : Bool) (s : List Char) : List Glyph :=
  (if quoted then [] else [.seam]) ++ characters quoted s

/-- The characters of an expanded word. -/
def glyphText (gs : List Glyph) : List Char :=
  gs.filterMap fun g =>
    match g with
    | .char c _ _ => some c
    | _ => none

/-- The pattern that an expanded word is. -/
def glyphPattern (gs : List Glyph) : Pattern :=
  .ofMarks <| gs.filterMap fun g =>
    match g with
    | .char c quoted _ => some ⟨quoted, c⟩
    | _ => none

/-- The directory that a tilde stands for in front of a word, and the length of the name after it.
-/
def home? (p : Process) (colons : Bool) (w : Word) : Option (String × Nat) :=
  let ends (c : Char) : Bool := c = '/' || (colons && c = ':')
  let name := w.takeWhile fun part => part.plain?.any fun c => !ends c
  let isWhole := match w.drop name.length with
    | [] => true
    | part :: _ => part.plain?.isSome
  let directory := match plain? name with
    | some "" => p.value? "HOME"
    | some "root" => some "/root"
    | _ => none
  if isWhole then directory.map fun d => (d, name.length) else none

/-- The value of a parameter in a word. -/
def valueGlyphs (m : Manner) (p : Process) (quoted : Bool) (name : String) : List Glyph :=
  if m.full && quoted && name = "@" then
    [Glyph.cut].intercalate <| p.arguments.map fun a => .quotes :: characters true a.toList
  else if m.full && !quoted && (name = "@" || name = "*") then
    .seam :: [Glyph.gap].intercalate (p.arguments.map fun a => characters false a.toList)
  else standIn quoted (p.value name).toList

/-- Complains about a parameter that has to be set. -/
def unset (name message : String) : Action (List Glyph) := do
  modify fun p => p.fail (name ++ ": " ++ message)
  return []

/-- The value of a parameter that may have to be set. -/
def parameterGlyphs (m : Manner) (quoted : Bool) (name : String) : Action (List Glyph) := do
  let p ← get
  if (p.value? name).isNone && p.has 'u' then unset name "parameter not set"
  else return valueGlyphs m p quoted name

/-- The value of an expression; it sets variables. -/
def calculate (quoted : Bool) (text : List Char) : Action (List Glyph) := do
  let p ← get
  match Arithmetic.eval p.value? text with
  | .error fault =>
    set (p.fail (fault.message (.ofList text)))
    return []
  | .ok (n, assigned) =>
    set (assigned.foldl (fun p a => if p.isRunning then p.assign a.1 a.2.repr else p) p)
    return standIn quoted n.repr.toList

/-- Parts that begin with all parameters in quotes. -/
def areAllParameters (part : Part) (parts : List Part) : Bool :=
  match part, parts with
  | .quotes, .parameter true "@" .value :: .quotes :: _ => true
  | _, _ => false

mutual

/-- Puts what it stands for in the place of a part. -/
def partGlyphs (m : Manner) : Part → Action (List Glyph)
  | .char quoted c => return [.char c quoted (m.inner && !quoted)]
  | .quotes => return [.quotes]
  | .parameter quoted name use => useGlyphs m quoted name use
  | .arithmetic quoted expression => do
    let gs ← wordGlyphs { m with full := false, inner := false } 0 false expression
    if (← get).isRunning then calculate quoted (glyphText gs) else return []
  | .output quoted script => do
    let out ← m.substitute script
    let out := (out.reverse.dropWhile (· = '\n')).reverse
    return standIn quoted (out.filter (· ≠ '\x00'))

/-- Puts what is made of a parameter in its place. -/
def useGlyphs (m : Manner) (quoted : Bool) (name : String) : Use → Action (List Glyph)
  | .value => parameterGlyphs m quoted name
  | .length => do
    let p ← get
    match p.value? name with
    | none => if p.has 'u' then unset name "parameter not set" else return standIn quoted ['0']
    | some value => return standIn quoted (digitsOf value.length)
  | .senseless => do
    modify fun p => p.fail "Bad substitution"
    return []
  | .trim atEnd longest pattern => do
    let value ← parameterGlyphs { m with full := false } quoted name
    if !(← get).isRunning then return []
    let gs ← wordGlyphs { m with full := false, inner := false } 0 true pattern
    return standIn quoted (Pattern.trim (glyphPattern gs) atEnd longest (glyphText value))
  | .alternative kind orEmpty w => do
    let p ← get
    let isApart := m.full && (name = "@" || (name = "*" && !quoted)) && 1 < p.arguments.length
    let isSet := (p.value? name).any fun v => !(orEmpty && v.isEmpty) || isApart
    match kind, isSet with
    | .instead, false => return []
    | .instead, true | .otherwise, false => wordGlyphs { m with inner := true } 0 true w
    | _, true => return valueGlyphs m p quoted name
    | .assigned, false => do
      let text := glyphText (← wordGlyphs { m with full := false, inner := true } 0 true w)
      if !(← get).isRunning then return []
      if isName name.toList then
        modify fun p => p.assign name (.ofList text)
        return standIn quoted text
      else
        modify fun p => p.fail (name ++ ": bad variable name")
        return []
    | .complaint, false => do
      if w.isEmpty then
        unset name (if orEmpty then "parameter not set or null" else "parameter not set")
      else
        let text := glyphText (← wordGlyphs { m with full := false, inner := true } 0 true w)
        if (← get).isRunning then unset name (.ofList text) else return []

/-- Puts what they stand for in the place of the parts of a word. A tilde stands for a directory
where a name may `start`, and the name after it is passed over with `skip`. The quotes around all
parameters make no field where there are no parameters. -/
def wordGlyphs (m : Manner) (skip : Nat) (start : Bool) : List Part → Action (List Glyph)
  | [] => return []
  | part :: parts => do
    let p ← get
    if !p.isRunning then return []
    else if 0 < skip then wordGlyphs m (skip - 1) false parts
    else if areAllParameters part parts then
      return valueGlyphs m p true "@" ++ (← wordGlyphs m 2 false parts)
    else
      match if start && part.plain? = some '~' then home? p m.colons parts else none with
      | some (directory, n) =>
        return standIn true directory.toList ++ (← wordGlyphs m n false parts)
      | none =>
        let first ← partGlyphs m part
        return first ++ (← wordGlyphs m 0 (m.colons && part.plain? = some ':') parts)

end

/-- The text of a word that is not cut. -/
def expandText (substitute : Script → Action Octets) (w : Word) : Action String := do
  return .ofList (glyphText (← wordGlyphs { substitute } 0 true w))

/-- The value of a word that is assigned. -/
def expandValue (substitute : Script → Action Octets) (w : Word) : Action String := do
  return .ofList (glyphText (← wordGlyphs { substitute, colons := true } 0 true w))

/-- The pattern that a word is. -/
def expandPattern (substitute : Script → Action Octets) (w : Word) : Action Pattern := do
  return glyphPattern (← wordGlyphs { substitute } 0 true w)

/-! ### Fields -/

/-- A separator that is white space; several of them count as one. -/
def isBlankSeparator (c : Char) : Bool :=
  c = ' ' || c = '\t' || c = '\n'

/-- Cuts an expanded word into fields. `begun` is the field at the front, if there is one, with its
last character first. If it is `after` a field that white space has ended, one more separator out of
the same part belongs to that end. -/
def cutFields (separators : List Char) (begun : Option (List Mark)) (after : Bool) :
    List Glyph → List (List Mark)
  | [] => (begun.map List.reverse).toList
  | .cut :: gs => (begun.map List.reverse).toList ++ cutFields separators none false gs
  | .gap :: gs =>
    (begun.map List.reverse).toList ++ cutFields separators none (after || begun.isSome) gs
  | .quotes :: gs => cutFields separators (some (begun.getD [])) false gs
  | .seam :: gs => cutFields separators begun false gs
  | .char c quoted splits :: gs =>
    if splits && separators.contains c then
      if isBlankSeparator c then
        (begun.map List.reverse).toList ++ cutFields separators none (after || begun.isSome) gs
      else if begun.isNone && after then cutFields separators none false gs
      else (begun.getD []).reverse :: cutFields separators none false gs
    else cutFields separators (some (⟨quoted, c⟩ :: begun.getD [])) false gs

/-- The fields of an expanded word. -/
def fieldsOf (separators : List Char) (gs : List Glyph) : List (List Mark) :=
  cutFields separators none false gs

end CrossCheck.Host.Shell
