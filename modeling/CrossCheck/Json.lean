import CrossCheck.Text.Hex

/-!
# JSON

JSON values and their text over several lines: two blanks of indentation for each level, one item
to a line, `[]` and `{}` for what is empty. In a string the quote, the backslash and the characters
below U+0020 are escaped and all others stand for themselves.
-/

namespace CrossCheck

/-- A JSON value. Its numbers are whole, and an object keeps the order of its fields. -/
inductive Json where
  | null
  | bool (b : Bool)
  | number (n : Int)
  | text (s : String)
  | list (items : List Json)
  | object (fields : List (String × Json))
  deriving Repr

namespace Json

/-- How a character is written inside a string. -/
def escape (c : Char) : List Char :=
  if c = '"' then ['\\', '"']
  else if c = '\\' then ['\\', '\\']
  else if c = '\n' then ['\\', 'n']
  else if c = '\r' then ['\\', 'r']
  else if c = '\t' then ['\\', 't']
  else if c = '\x08' then ['\\', 'b']
  else if c = '\x0c' then ['\\', 'f']
  else if c < ' ' then
    ['\\', 'u', '0', '0', Text.hexDigit (c.toNat / 16), Text.hexDigit (c.toNat % 16)]
  else [c]

/-- A string in quotes. -/
def quote (s : String) : List Char :=
  '"' :: (s.toList.flatMap escape ++ ['"'])

/-- A newline and the indentation of a level. -/
def newline (level : Nat) : List Char :=
  '\n' :: List.replicate (2 * level) ' '

mutual

/-- The text of a value that stands at a level of indentation. -/
def render (level : Nat) : Json → List Char
  | null => "null".toList
  | bool b => (if b then "true" else "false").toList
  | number n => n.repr.toList
  | text s => quote s
  | list [] => ['[', ']']
  | list (item :: items) =>
    '[' :: newline (level + 1) ++ render (level + 1) item ++ renderItems (level + 1) items ++
      newline level ++ [']']
  | object [] => ['{', '}']
  | object ((name, value) :: fields) =>
    '{' :: newline (level + 1) ++ quote name ++ [':', ' '] ++ render (level + 1) value ++
      renderFields (level + 1) fields ++ newline level ++ ['}']

/-- The text of the items after the first, each led by a comma. -/
def renderItems (level : Nat) : List Json → List Char
  | [] => []
  | item :: items => ',' :: newline level ++ render level item ++ renderItems level items

/-- The text of the fields after the first, each led by a comma. -/
def renderFields (level : Nat) : List (String × Json) → List Char
  | [] => []
  | (name, value) :: fields =>
    ',' :: newline level ++ quote name ++ [':', ' '] ++ render level value ++
      renderFields level fields

end

/-- The text of a value, without a newline at its end. -/
def pretty (j : Json) : String :=
  .ofList (j.render 0)

end Json

end CrossCheck
