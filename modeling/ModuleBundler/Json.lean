/-
# ModuleBundler.Json -- JSON texts of strings and objects

The values that the compression settings need, and their text: objects over
several lines with two spaces for each level, members in order, and strings with
the escapes that JSON asks for. All other characters stand as they are.

An object that is made of entries has one member for each key, at the place where
the key came first and with the value that came last.
-/

import ModuleBundler.Keyed

namespace ModuleBundler

/-- A JSON value made of strings and objects. -/
inductive Json where
  | string (text : String)
  | object (members : List (String × Json))
  deriving Repr

namespace Json

/-! ## Objects -/

/-- The object that entries give which are put in one after the other. -/
def ofEntries (entries : List (String × Json)) : Json :=
  .object (Keyed.putAll [] entries)

/-! ## Strings -/

/-- A digit of a hexadecimal number. -/
def hexDigit (n : Nat) : Char :=
  (Nat.digitChar (n % 16))

/-- A character as it stands in a string. -/
def escape (c : Char) : List Char :=
  if c = '"' then ['\\', '"']
  else if c = '\\' then ['\\', '\\']
  else if c = '\x08' then ['\\', 'b']
  else if c = '\x0c' then ['\\', 'f']
  else if c = '\n' then ['\\', 'n']
  else if c = '\r' then ['\\', 'r']
  else if c = '\t' then ['\\', 't']
  else if c.toNat < 0x20 then ['\\', 'u', '0', '0', hexDigit (c.toNat / 16), hexDigit c.toNat]
  else [c]

/-- A string in quotes. -/
def quote (text : List Char) : List Char :=
  '"' :: text.flatMap escape ++ ['"']

/-! ## Values -/

/-- A new line, moved in by two spaces for each level. -/
def newLine (level : Nat) : List Char :=
  '\n' :: List.replicate (2 * level) ' '

mutual

/-- The text of a value that stands at a level. -/
def render (level : Nat) : Json → List Char
  | .string text => quote text.toList
  | .object members =>
    match members with
    | [] => ['\x7b', '\x7d']
    | first :: rest =>
      '\x7b' :: renderMember (level + 1) first ++ renderRest (level + 1) rest ++
        newLine level ++ ['\x7d']

/-- The text of a member on a line of its own. -/
def renderMember (level : Nat) : String × Json → List Char
  | (key, value) => newLine level ++ quote key.toList ++ [':', ' '] ++ render level value

/-- The text of members, each behind a comma. -/
def renderRest (level : Nat) : List (String × Json) → List Char
  | [] => []
  | first :: rest => ',' :: renderMember level first ++ renderRest level rest

end

/-- The text of a value. -/
def pretty (v : Json) : String :=
  String.ofList (render 0 v)

end Json

end ModuleBundler
