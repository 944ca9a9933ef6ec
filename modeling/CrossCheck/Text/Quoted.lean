import CrossCheck.Text.Invisible

/-!
# Quoted text

Text in double quotes, as it is shown in traces. The quote and the backslash are escaped by a
backslash, four controls have letters of their own, and every other invisible character is given by
its code in hexadecimal digits between braces.
-/

namespace CrossCheck.Text

/-- A character's code in hexadecimal digits, between braces. -/
def escapedCode (c : Char) : List Char :=
  ['\\', 'u', '{'] ++ Nat.toDigits 16 c.toNat ++ ['}']

/-- How a character is shown between quotes. -/
def shown (c : Char) : List Char :=
  if c = '"' then ['\\', '"']
  else if c = '\\' then ['\\', '\\']
  else if c = '\n' then ['\\', 'n']
  else if c = '\r' then ['\\', 'r']
  else if c = '\t' then ['\\', 't']
  else if c = '\x00' then ['\\', '0']
  else if isInvisible c then escapedCode c
  else [c]

/-- A text in quotes. -/
def quoted (s : String) : String :=
  .ofList ('"' :: (s.toList.flatMap shown ++ ['"']))

end CrossCheck.Text
