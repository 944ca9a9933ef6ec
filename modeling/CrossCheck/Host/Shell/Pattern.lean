import CrossCheck.Host.Octets

/-!
# Patterns

A pattern is made of octets that stand for themselves and of `*`, `?` and brackets, which stand for
any text, any octet, and one of several octets. What is quoted stands for itself.

* `Pattern.ofMarks` : the pattern of an expanded word
* `Pattern.fits` : whether a text fits a pattern
-/

namespace CrossCheck.Host.Shell

/-- An octet of a pattern as it is written. -/
structure Mark where
  quoted : Bool
  c : Char
  deriving DecidableEq, Repr

/-- What may stand between brackets. -/
inductive BracketItem where
  | range (first last : Char)
  | group (name : String)
  deriving DecidableEq, Repr

/-- A piece of a pattern. -/
inductive PatternPiece where
  | exactly (c : Char)
  | any
  | many
  | oneOf (negated : Bool) (items : List BracketItem)
  deriving DecidableEq, Repr

/-- A pattern. -/
abbrev Pattern := List PatternPiece

/-- Punctuation. -/
def isPunctuation (c : Char) : Bool :=
  '!' ≤ c && c ≤ '~' && !c.isAlphanum

/-- The octets of a class such as `alpha`. -/
def inClass (name : String) (c : Char) : Bool :=
  match name with
  | "alpha" => c.isAlpha
  | "digit" => c.isDigit
  | "alnum" => c.isAlphanum
  | "upper" => c.isUpper
  | "lower" => c.isLower
  | "space" => c = ' ' || ('\t' ≤ c && c ≤ '\r')
  | "blank" => c = ' ' || c = '\t'
  | "punct" => isPunctuation c
  | "print" => ' ' ≤ c && c ≤ '~'
  | "graph" => '!' ≤ c && c ≤ '~'
  | "cntrl" => c < ' ' || c = '\x7f'
  | "xdigit" => c.isDigit || ('a' ≤ c && c ≤ 'f') || ('A' ≤ c && c ≤ 'F')
  | _ => false

/-- The names of the classes. -/
def classNames : List String :=
  ["alpha", "digit", "alnum", "upper", "lower", "space", "blank", "punct", "print", "graph",
    "cntrl", "xdigit"]

/-- An octet is one of those between brackets. -/
def BracketItem.holds (c : Char) : BracketItem → Bool
  | .range first last => first ≤ c && c ≤ last
  | .group name => inClass name c

namespace Pattern

/-- The name of a class such as `[:alpha:]` at the front of a text that follows the bracket, and how
many octets it takes up. -/
def className? (ms : List Mark) : Option (String × Nat) :=
  match ms with
  | ⟨false, ':'⟩ :: rest =>
    let name := rest.takeWhile fun m => m.c.isAlpha
    match rest.drop name.length with
    | ⟨_, ':'⟩ :: ⟨_, ']'⟩ :: _ => some (.ofList (name.map Mark.c), name.length + 3)
    | _ => none
  | _ => none

/-- Reads what stands between brackets, up to the closing one: the items, and what comes after. The
octets of a class are passed over with `skip`. -/
def items? (first : Bool) (skip : Nat) : List Mark → Option (List BracketItem × List Mark)
  | [] => none
  | m :: ms =>
    match skip with
    | skip + 1 => items? false skip ms
    | 0 =>
      if !m.quoted && m.c = ']' && !first then some ([], ms)
      else
        match if !m.quoted && m.c = '[' then className? ms else none with
        | some (name, n) => (items? false n ms).map fun (is, rest) => (.group name :: is, rest)
        | none =>
          match ms with
          | ⟨false, '-'⟩ :: last :: _ =>
            if !last.quoted && last.c = ']' then
              (items? false 0 ms).map fun (is, rest) => (.range m.c m.c :: is, rest)
            else (items? false 2 ms).map fun (is, rest) => (.range m.c last.c :: is, rest)
          | _ => (items? false 0 ms).map fun (is, rest) => (.range m.c m.c :: is, rest)

theorem length_items? {first : Bool} {skip : Nat} {ms rest : List Mark} {is : List BracketItem}
    (h : items? first skip ms = some (is, rest)) : rest.length < ms.length := by
  fun_induction items? first skip ms generalizing is rest <;> simp_all [Option.map_eq_some_iff]
  all_goals grind

/-- The brackets start with an exclamation mark, which stands for all but what follows. -/
def isNegated : List Mark → Bool
  | [] => false
  | m :: _ => !m.quoted && m.c = '!'

/-- The brackets at the front of a text that follows the opening one, and what comes after. -/
def brackets? (ms : List Mark) : Option (PatternPiece × List Mark) :=
  (items? true 0 (if isNegated ms then ms.tail else ms)).map fun (is, rest) =>
    (.oneOf (isNegated ms) is, rest)

theorem length_brackets? {ms rest : List Mark} {piece : PatternPiece}
    (h : brackets? ms = some (piece, rest)) : rest.length < ms.length := by
  obtain ⟨⟨is, r⟩, h, heq⟩ := Option.map_eq_some_iff.1 h
  cases heq
  have := length_items? h
  split at this
  · rw [List.length_tail] at this
    omega
  · exact this

/-- The pattern of an expanded word. -/
def ofMarks (ms : List Mark) : Pattern :=
  match ms with
  | [] => []
  | m :: ms =>
    if m.quoted then .exactly m.c :: ofMarks ms
    else if m.c = '*' then .many :: ofMarks ms
    else if m.c = '?' then .any :: ofMarks ms
    else if m.c = '\\' then
      match ms with
      | [] => [.exactly '\\']
      | escaped :: ms => .exactly escaped.c :: ofMarks ms
    else if m.c = '[' then
      match _h : brackets? ms with
      | some (piece, rest) => piece :: ofMarks rest
      | none => .exactly '[' :: ofMarks ms
    else .exactly m.c :: ofMarks ms
  termination_by ms.length
  decreasing_by
    all_goals simp only [List.length_cons]
    any_goals omega
    have := length_brackets? _h
    omega

/-- A text fits a pattern. -/
def fits : Pattern → Octets → Bool
  | [], s => s.isEmpty
  | .many :: ps, [] => fits ps []
  | .many :: ps, c :: s => fits ps (c :: s) || fits (.many :: ps) s
  | _ :: _, [] => false
  | .exactly d :: ps, c :: s => c = d && fits ps s
  | .any :: ps, _ :: s => fits ps s
  | .oneOf negated is :: ps, c :: s => (is.any (BracketItem.holds c)) != negated && fits ps s
  termination_by ps s => ps.length + s.length

/-- Anything but octets that stand for themselves is in a pattern. -/
def isOpen (p : Pattern) : Bool :=
  p.any fun piece =>
    match piece with
    | .exactly _ => false
    | _ => true

/-- A text without the end that fits a pattern, or the beginning: the shortest one or the longest
one. -/
def trim (p : Pattern) (atEnd longest : Bool) (s : Octets) : Octets :=
  let lengths := List.range (s.length + 1)
  let cuts := if atEnd = longest then lengths else lengths.reverse
  if atEnd then
    match cuts.find? fun n => fits p (s.drop n) with
    | some n => s.take n
    | none => s
  else
    match (if longest then lengths.reverse else lengths).find? fun n => fits p (s.take n) with
    | some n => s.drop n
    | none => s

end Pattern

end CrossCheck.Host.Shell
