import Switchboard.Text.Layout
import Switchboard.Text.Escaped

/-! # Quoted text in descriptions

Inside a description a text stands in double quotes. The quote and the backslash are escaped, the
common control characters have short escapes, and every other character that would not be seen on
its own is written as its hexadecimal code in braces. -/

namespace Switchboard.Text

/-- The spelling of one character inside quotes. -/
def quotedChar (c : Char) : List Char :=
  if c = '"' then ['\\', '"']
  else if c = '\\' then ['\\', '\\']
  else if c = '\n' then ['\\', 'n']
  else if c = '\r' then ['\\', 'r']
  else if c = '\t' then ['\\', 't']
  else if c = '\x00' then ['\\', '0']
  else if isEscaped c then
    '\\' :: 'u' :: '{' :: (Nat.toDigits 16 c.toNat ++ ['}'])
  else [c]

/-- A text in quotes. -/
def quoted (s : String) : String :=
  String.ofList ('"' :: (s.toList.flatMap quotedChar ++ ['"']))

end Switchboard.Text
