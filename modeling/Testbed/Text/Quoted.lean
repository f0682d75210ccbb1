import Testbed.Text.Hidden

/-!
# Quoted text

A text between double quotes, in one line and without hidden characters: NUL, tab, line feed,
carriage return, the double quote and the backslash have an escape of two characters, and every
other hidden character is written `\u{…}` with its number in hexadecimal.
-/

namespace Testbed.Text

/-- A character inside quotes. -/
def quoteChar (c : Char) : List Char :=
  if c = '\x00' then ['\\', '0']
  else if c = '\t' then ['\\', 't']
  else if c = '\r' then ['\\', 'r']
  else if c = '\n' then ['\\', 'n']
  else if c = '"' then ['\\', '"']
  else if c = '\\' then ['\\', '\\']
  else if isHidden c then ['\\', 'u', '{'] ++ Nat.toDigits 16 c.toNat ++ ['}']
  else [c]

/-- A text in double quotes. -/
def quote (s : String) : String :=
  String.ofList ('"' :: s.toList.flatMap quoteChar ++ ['"'])

end Testbed.Text
