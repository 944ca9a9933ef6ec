import CrossCheck.Host.Shell.Pattern

/-!
# Regular expressions

A regular expression says which pieces of a text it fits. Of the pieces that it fits, the first one
counts, and of those that start there the longest one. Groups are pieces of that piece which the
expression marks with a number; a group may have to occur again.

* `Regex.reach` : where a piece can end that starts at a given place, the longest piece first
* `Expression.find?` : the piece of a text that counts
-/

namespace CrossCheck.Host

/-- A place between two octets that an expression may ask for. -/
inductive Edge where
  | lineStart
  | lineEnd
  | textStart
  | textEnd
  | wordStart
  | wordEnd
  | wordEdge
  /-- Anywhere but at the edge of a word. -/
  | noWordEdge
  deriving DecidableEq, Repr

/-- The octets that fit in one place. -/
structure OctetClass where
  negated : Bool := false
  items : List Shell.BracketItem
  deriving DecidableEq, Repr

/-- A regular expression. -/
inductive Regex where
  | nothing
  | octet (c : OctetClass)
  | edge (e : Edge)
  | group (number : Nat) (r : Regex)
  /-- What the group of that number has fitted. -/
  | same (number : Nat)
  | both (first second : Regex)
  | either (first second : Regex)
  | star (r : Regex)
  deriving DecidableEq, Repr

/-- A regular expression and how it is to be read. -/
structure Expression where
  regex : Regex
  /-- How many groups it has. -/
  groups : Nat
  anyCase : Bool := false
  /-- Lines in the text begin and end at its newlines. -/
  byLine : Bool := false
  deriving DecidableEq, Repr

/-- An octet of a word. -/
def isWordOctet (c : Char) : Bool :=
  c.isAlphanum || c = '_'

/-- An octet is in a class. Where lines count, a class of all but some octets has no newline. -/
def OctetClass.holds (k : OctetClass) (x : Expression) (c : Char) : Bool :=
  (if x.anyCase then k.items.any fun i => i.holds c.toLower || i.holds c.toUpper
    else k.items.any fun i => i.holds c) != k.negated &&
  !(x.byLine && k.negated && c = '\n')

/-- The class of one octet. -/
def OctetClass.only (c : Char) : OctetClass where
  items := [.range c c]

/-- What an expression is looked for in. -/
structure Subject where
  text : Array Char
  expression : Expression

/-- How far a piece goes: the place after it, and the groups in it with their beginnings and ends,
the last one first. -/
structure Reach where
  position : Nat
  groups : List (Nat × Nat × Nat) := []
  deriving DecidableEq, Repr

namespace Subject

/-- The octet before a place is one of a word. -/
def afterWord (s : Subject) (position : Nat) : Bool :=
  0 < position && (s.text[position - 1]?).any isWordOctet

/-- The octet at a place is one of a word. -/
def beforeWord (s : Subject) (position : Nat) : Bool :=
  (s.text[position]?).any isWordOctet

/-- A place is one that an expression asks for. -/
def holds (s : Subject) (position : Nat) : Edge → Bool
  | .lineStart => position = 0 ||
      (s.expression.byLine && s.text[position - 1]? = some '\n')
  | .lineEnd => position = s.text.size ||
      (s.expression.byLine && s.text[position]? = some '\n')
  | .textStart => position = 0
  | .textEnd => position = s.text.size
  | .wordStart => !s.afterWord position && s.beforeWord position
  | .wordEnd => s.afterWord position && !s.beforeWord position
  | .wordEdge => s.afterWord position != s.beforeWord position
  | .noWordEdge => s.afterWord position == s.beforeWord position

/-- Two octets are the same. -/
def agree (s : Subject) (c d : Char) : Bool :=
  c = d || (s.expression.anyCase && c.toLower = d.toLower)

/-- The octets at a place of the class `k`, at most `most` of them: how many there are. -/
def run (s : Subject) (k : OctetClass) : (most : Nat) → (position : Nat) → Nat
  | 0, _ => 0
  | most + 1, position =>
    if (s.text[position]?).any (k.holds s.expression) then s.run k most (position + 1) + 1
    else 0

end Subject

namespace Regex

/-- The group of some number occurs again in an expression. -/
def looksBack : Regex → Bool
  | .same _ => true
  | .group _ r | .star r => r.looksBack
  | .both a b | .either a b => a.looksBack || b.looksBack
  | _ => false

/-- Two ways to go on count as one. Groups matter only where an expression looks back. -/
def alike (looksBack : Bool) (p q : Reach) : Bool :=
  p.position = q.position && (!looksBack || p.groups = q.groups)

/-- Ways to go on, the longest piece first, and of those that are alike only the first one. -/
def distinct (looksBack : Bool) (ps : List Reach) : List Reach :=
  match ps with
  | [] | [_] => ps
  | _ =>
    let sorted := ps.mergeSort fun p q => q.position ≤ p.position
    (sorted.foldl (fun (kept : List Reach) p =>
      if (kept.takeWhile fun q => q.position = p.position).any (alike looksBack p) then kept
      else p :: kept) []).reverse

/-- Goes on with steps again and again, at most `most` times, and puts the places that it comes to
in front of those that are `seen` already. -/
def closure (looksBack : Bool) (step : Reach → List Reach) :
    (most : Nat) → Reach → (seen : List Reach) → List Reach
  | 0, p, seen => p :: seen
  | most + 1, p, seen =>
    if seen.any (alike looksBack p) then seen
    else
      (step p).foldl (fun seen q =>
        if q.position = p.position then seen else closure looksBack step most q seen) (p :: seen)

/-- Where a piece can end that goes on from `p`, the longest piece first. -/
def reach (s : Subject) (looksBack : Bool) : Regex → Reach → List Reach
  | .nothing, p => [p]
  | .octet k, p =>
    if (s.text[p.position]?).any (k.holds s.expression) then
      [{ p with position := p.position + 1 }]
    else []
  | .edge e, p => if s.holds p.position e then [p] else []
  | .group n r, p =>
    (reach s looksBack r p).map fun q =>
      { q with groups := (n, p.position, q.position) :: q.groups }
  | .same n, p =>
    match p.groups.lookup n with
    | none => []
    | some (first, last) =>
      let length := last - first
      if p.position + length ≤ s.text.size && (List.range length).all fun k =>
          s.agree ((s.text[first + k]?).getD ' ') ((s.text[p.position + k]?).getD ' ') then
        [{ p with position := p.position + length }]
      else []
  | .both a b, p => distinct looksBack ((reach s looksBack a p).flatMap (reach s looksBack b))
  | .either a b, p => distinct looksBack (reach s looksBack a p ++ reach s looksBack b p)
  | .star (.octet k), p =>
    let n := s.run k (s.text.size - p.position) p.position
    (List.range (n + 1)).map fun i => { p with position := p.position + n - i }
  | .star r, p =>
    distinct looksBack
      (closure looksBack (reach s looksBack r) (s.text.size - p.position + 1) p []).reverse

/-- An expression `n` times in front of another one. -/
def again (r : Regex) : (n : Nat) → (rest : Regex) → Regex
  | 0, rest => rest
  | n + 1, rest => .both r (again r n rest)

/-- An expression at most `n` times. -/
def upTo (r : Regex) : (n : Nat) → Regex
  | 0 => .nothing
  | n + 1 => .either (.both r (upTo r n)) .nothing

/-- An expression several times: at least `least`, and at most `most` times if that is given. -/
def times (r : Regex) (least : Nat) : (most : Option Nat) → Regex
  | none => r.again least (.star r)
  | some most => r.again least (r.upTo (most - least))

end Regex

/-- A piece of a text. -/
structure Fit where
  first : Nat
  last : Nat
  /-- The groups in it, each with its beginning and its end. -/
  groups : List (Nat × Nat × Nat)
  deriving DecidableEq, Repr

namespace Expression

/-- Looks for a piece that starts at `start` or at one of the `more` places after it. -/
def search (s : Subject) (looksBack : Bool) : (more : Nat) → (start : Nat) → Option Fit
  | more, start =>
    match s.expression.regex.reach s looksBack { position := start } with
    | q :: _ => some { first := start, last := q.position, groups := q.groups }
    | [] =>
      match more with
      | 0 => none
      | more + 1 => search s looksBack more (start + 1)

/-- The piece of a text that counts, among those that start at `start` or after it. -/
def find? (x : Expression) (text : Array Char) (start : Nat) : Option Fit :=
  search { text, expression := x } x.regex.looksBack (text.size - start) start

end Expression

namespace Fit

/-- The octets of a group; the group 0 is the piece itself. A group that fits nothing is empty. -/
def octets (f : Fit) (text : Array Char) (number : Nat) : Octets :=
  if number = 0 then (text.extract f.first f.last).toList
  else
    match f.groups.lookup number with
    | some (first, last) => (text.extract first last).toList
    | none => []

end Fit

end CrossCheck.Host
