import RemoteAgent.Text.Hidden

/-!
# Quoted text

Diagnostics show a text between double quotes. A quote and a backslash get a backslash
before them, the common controls have letters of their own, and every other character
that does not show on its own is spelled by its number.
-/

namespace RemoteAgent.Text

/-- One hexadecimal digit in lower case. -/
def hexDigit (digit : Nat) : Char :=
  if digit < 10 then Char.ofNat (0x30 + digit) else Char.ofNat (0x61 + digit - 10)

/-- A number in lower-case hexadecimal without leading zeros. -/
def hex (value : Nat) : List Char :=
  if value < 16 then [hexDigit value] else hex (value / 16) ++ [hexDigit (value % 16)]
termination_by value

/-- One character inside quotes. -/
def quotedChar (c : Char) : List Char :=
  if c = '"' then ['\\', '"']
  else if c = '\\' then ['\\', '\\']
  else if c.toNat = 0 then ['\\', '0']
  else if c = '\t' then ['\\', 't']
  else if c = '\r' then ['\\', 'r']
  else if c = '\n' then ['\\', 'n']
  else if isHidden c then ['\\', 'u', '\x7b'] ++ hex c.toNat ++ ['\x7d']
  else [c]

/-- A text between double quotes. -/
def quoted (text : String) : String :=
  String.ofList ('"' :: text.toList.flatMap quotedChar ++ ['"'])

end RemoteAgent.Text
