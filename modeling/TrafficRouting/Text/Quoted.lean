import TrafficRouting.Text.Visibility

/-!
# TrafficRouting.Text.Quoted — text in double quotes, as messages and logs show it

Quotes and backslashes are escaped, the common controls have letters, and every other character
that is not visible by itself is shown by its number.
-/

namespace TrafficRouting.Text

/-- The digits of `n` in base sixteen, lower case. -/
def hex (n : Nat) : List Char := Nat.toDigits 16 n

/-- One character inside double quotes. -/
def quotedChar (c : Char) : List Char :=
  if c = '\x00' then ['\\', '0']
  else if c = '\t' then ['\\', 't']
  else if c = '\r' then ['\\', 'r']
  else if c = '\n' then ['\\', 'n']
  else if c = '\\' then ['\\', '\\']
  else if c = '"' then ['\\', '"']
  else if 0x20 ≤ c.toNat && c.toNat < 0x7F then [c]
  else if isVisible c then [c]
  else ['\\', 'u', '\x7b'] ++ hex c.toNat ++ ['\x7d']

/-- The text in double quotes. -/
def quoted (s : String) : String :=
  .ofList ('"' :: s.toList.flatMap quotedChar ++ ['"'])

/-- Texts in double quotes, as a bracketed list. -/
def quotedList (ss : List String) : String := "[" ++ ", ".intercalate (ss.map quoted) ++ "]"

end TrafficRouting.Text
