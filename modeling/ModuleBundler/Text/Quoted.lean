/-
# ModuleBundler.Text.Quoted -- texts in quotes

A text in quotes, as messages and log lines show it. Quotes, backslashes and the
characters that do not show by themselves are escaped; the escapes of one letter
come first, and all other characters are written by their number.
-/

import ModuleBundler.Text.Unseen

namespace ModuleBundler.Text

/-- A character of a quoted text, escaped where it could not stand for itself. -/
def escape (c : Char) : List Char :=
  if c = '"' then ['\\', '"']
  else if c = '\\' then ['\\', '\\']
  else if c = '\n' then ['\\', 'n']
  else if c = '\r' then ['\\', 'r']
  else if c = '\t' then ['\\', 't']
  else if c = '\x00' then ['\\', '0']
  else if isUnseen c then ['\\', 'u', '\x7b'] ++ Nat.toDigits 16 c.toNat ++ ['\x7d']
  else [c]

/-- A text in quotes. -/
def quoted (text : String) : String :=
  String.ofList ('"' :: text.toList.flatMap escape ++ ['"'])

end ModuleBundler.Text
