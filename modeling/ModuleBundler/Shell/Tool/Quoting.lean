/-
# ModuleBundler.Shell.Tool.Quoting -- names in the messages of programs

A message shows a name so that it could be given to a shell again: in single quotes,
with what cannot be printed in escapes of its own (`quoted`). A name that a shell takes
as it is may stand without quotes (`quotedIfNeeded`). Other messages use escapes within
single quotes (`escapedQuote`).
-/

import ModuleBundler.Text.Octets

namespace ModuleBundler.Shell.Tool

/-- The escape of a byte that cannot be printed. -/
def byteEscape (b : UInt8) : List Char :=
  let digit (n : Nat) : Char := Nat.digitChar (n % 8)
  match b.toNat with
  | 7 => ['\\', 'a']
  | 8 => ['\\', 'b']
  | 9 => ['\\', 't']
  | 10 => ['\\', 'n']
  | 11 => ['\\', 'v']
  | 12 => ['\\', 'f']
  | 13 => ['\\', 'r']
  | n => ['\\', digit (n / 64), digit (n / 8), digit n]

/-- Whether a byte is a character that can be printed. -/
def isPrintable (b : UInt8) : Bool :=
  0x20 ≤ b && b < 0x7F

/-- Whether a character means the same to a shell and in double quotes. -/
def isPlain (c : Char) : Bool :=
  c.isAlphanum || [' ', '\'', '%', '+', ',', '-', '.', '/', ':', ']', '_', '{', '}'].contains c

/-- The characters of bytes in single quotes; `escaping` tells whether escapes stand
in front. -/
def quotedFrom : Bool → List UInt8 → List Char
  | _, [] => ['\'']
  | escaping, b :: rest =>
    if isPrintable b then
      let c := Char.ofNat b.toNat
      (if escaping then ['\'', '\''] else []) ++
        (if c = '\'' then ['\'', '\\', '\'', '\''] else [c]) ++ quotedFrom false rest
    else (if escaping then [] else ['\'', '$', '\'']) ++ byteEscape b ++ quotedFrom true rest

/-- Whether the first of some bytes is one that is plain only there. -/
def startsPlain (bytes : List UInt8) : Bool :=
  bytes.head?.any fun b => b = 0x23 || b = 0x7E

/-- A name in quotes. -/
def quoted (name : String) : String :=
  let bytes := Text.toOctets name
  let holdsQuote := bytes.contains 0x27
  let tail := if startsPlain bytes then bytes.drop 1 else bytes
  if holdsQuote && tail.all fun b => isPlain (Char.ofNat b.toNat) then "\"" ++ name ++ "\""
  else String.ofList ('\'' :: quotedFrom false bytes)

/-- Whether a shell takes a character as it is. -/
def isUnquoted (c : Char) : Bool :=
  c.isAlphanum || ['%', '+', ',', '-', '.', '/', ':', ']', '_', '{', '}', '@', '#', '~'].contains c

/-- A name, in quotes if a shell would not take it as it is. -/
def quotedIfNeeded (name : String) : String :=
  let bytes := Text.toOctets name
  if !bytes.isEmpty && !startsPlain bytes && bytes.all fun b => isUnquoted (Char.ofNat b.toNat) then
    name
  else quoted name

/-- A name in quotes, with quotes, backslashes and what cannot be printed in escapes. -/
def escapedQuote (name : String) : String :=
  let shown (b : UInt8) : List Char :=
    if b = 0x27 || b = 0x5C then ['\\', Char.ofNat b.toNat]
    else if isPrintable b then [Char.ofNat b.toNat]
    else byteEscape b
  String.ofList ('\'' :: (Text.toOctets name).flatMap shown ++ ['\''])

end ModuleBundler.Shell.Tool
