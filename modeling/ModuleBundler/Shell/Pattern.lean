/-
# ModuleBundler.Shell.Pattern -- patterns of a shell

`?` stands for one byte, `*` for any run of bytes, and brackets for one byte of a
set; anything that was quoted stands for itself. A bracket without an end stands for
itself, too. Patterns are matched against whole texts, and take away the front or the
back of one (`withoutFront`, `withoutBack`).
-/

import ModuleBundler.Text.Octets

namespace ModuleBundler.Shell

/-- A character of a word, and whether it was quoted. -/
structure Glyph where
  char : Char
  quoted : Bool
  deriving DecidableEq, Repr

namespace Glyph

/-- The text of glyphs. -/
def textOf (glyphs : List Glyph) : String :=
  String.ofList (glyphs.map Glyph.char)

end Glyph

/-- A part of a pattern. -/
inductive PatternPart where
  | byte (b : UInt8)
  | anyOne
  | anyRun
  | set (negated : Bool) (ranges : List (UInt8 × UInt8))
  deriving DecidableEq, Repr

/-- A pattern of a shell. -/
abbrev Pattern := List PatternPart

namespace Pattern

/-- The byte of an ASCII character. -/
def ascii (c : Char) : UInt8 := c.toNat.toUInt8

/-- The bytes of a named class. -/
def classRanges? (name : List UInt8) : Option (List (UInt8 × UInt8)) :=
  let range (a b : Char) := (ascii a, ascii b)
  let table : List (String × List (UInt8 × UInt8)) :=
    [ ("alnum", [range '0' '9', range 'A' 'Z', range 'a' 'z']),
      ("alpha", [range 'A' 'Z', range 'a' 'z']),
      ("blank", [range ' ' ' ', range '\t' '\t']),
      ("cntrl", [(0, 31), (127, 127)]),
      ("digit", [range '0' '9']),
      ("graph", [(33, 126)]),
      ("lower", [range 'a' 'z']),
      ("print", [(32, 126)]),
      ("punct", [(33, 47), (58, 64), (91, 96), (123, 126)]),
      ("space", [range ' ' ' ', (9, 13)]),
      ("upper", [range 'A' 'Z']),
      ("xdigit", [range '0' '9', range 'A' 'F', range 'a' 'f']) ]
  (table.find? fun entry => entry.1.toUTF8.toList == name).map Prod.snd

/-- Reads the members of a set up to its end: what stands between brackets, and what
stands behind it. `first` is set where a closing bracket is a member. The number
bounds the bytes. -/
def members? (first : Bool) :
    Nat → List (UInt8 × Bool) → Option (List (UInt8 × UInt8) × List (UInt8 × Bool))
  | 0, _ => none
  | n + 1, text =>
    let go (range : UInt8 × UInt8) (rest : List (UInt8 × Bool)) :=
      match rest with
      | (dash, false) :: (last, q) :: behind =>
        if dash = ascii '-' && !(last == ascii ']' && !q) then
          (members? false n behind).map fun read => ((range.1, last) :: read.1, read.2)
        else (members? false n rest).map fun read => (range :: read.1, read.2)
      | rest => (members? false n rest).map fun read => (range :: read.1, read.2)
    match text with
    | [] => none
    | (b, quoted) :: rest =>
      if b = ascii ']' && !quoted && !first then some ([], rest)
      else if b = ascii '\\' && !quoted then
        match rest with
        | (c, _) :: rest => go (c, c) rest
        | [] => none
      else
        let isClass := b = ascii '[' && !quoted && rest.head? = some (ascii ':', false)
        let name := (rest.drop 1).map Prod.fst |>.takeWhile (· ≠ ascii ':')
        let behind := rest.drop (name.length + 1)
        match isClass, classRanges? name, behind with
        | true, some ranges, (_, _) :: (close, _) :: behind =>
          if close = ascii ']' then
            (members? false n behind).map fun read => (ranges ++ read.1, read.2)
          else go (b, b) rest
        | _, _, _ => go (b, b) rest

/-- Reads a pattern from bytes, each with whether it was quoted. The number bounds
the bytes. -/
def ofBytes : Nat → List (UInt8 × Bool) → Pattern
  | 0, _ => []
  | _ + 1, [] => []
  | n + 1, (b, quoted) :: rest =>
    if quoted then .byte b :: ofBytes n rest
    else if b = ascii '?' then .anyOne :: ofBytes n rest
    else if b = ascii '*' then .anyRun :: ofBytes n rest
    else if b = ascii '\\' then
      match rest with
      | (c, _) :: rest => .byte c :: ofBytes n rest
      | [] => [.byte b]
    else if b = ascii '[' then
      let negated := rest.head? = some (ascii '!', false)
      match members? true n (if negated then rest.drop 1 else rest) with
      | some (ranges, behind) => .set negated ranges :: ofBytes n behind
      | none => .byte b :: ofBytes n rest
    else .byte b :: ofBytes n rest

/-- The pattern that glyphs write. -/
def ofGlyphs (glyphs : List Glyph) : Pattern :=
  let bytes := glyphs.flatMap fun g => (Text.octetsOf g.char).map fun b => (b, g.quoted)
  ofBytes (bytes.length + 1) bytes

/-- Whether glyphs hold anything that is not taken as it is. -/
def hasMarks (glyphs : List Glyph) : Bool :=
  glyphs.any fun g => !g.quoted && ['*', '?', '['].contains g.char

/-- The ends of a list, the longest first. -/
def ends {α : Type} : List α → List (List α)
  | [] => [[]]
  | a :: rest => (a :: rest) :: ends rest

/-- Whether a part matches a byte by itself. -/
def acceptsByte (part : PatternPart) (b : UInt8) : Bool :=
  match part with
  | .byte c => b == c
  | .anyOne => true
  | .anyRun => false
  | .set negated ranges => (ranges.any fun range => range.1 ≤ b && b ≤ range.2) != negated

/-- What may be left of a text behind one more part, given what may be left in front
of it, the longest first. Whatever a run may leave of a shorter rest, it may leave of
the longest one, too. -/
def step (left : List (List UInt8)) (part : PatternPart) : List (List UInt8) :=
  match part, left with
  | .anyRun, longest :: _ => ends longest
  | part, left => left.filterMap fun rest =>
    match rest with
    | b :: behind => if acceptsByte part b then some behind else none
    | [] => none

/-- Whether a pattern matches the whole of a text. -/
def accepts (p : Pattern) (text : List UInt8) : Bool :=
  (p.foldl step [text]).any List.isEmpty

/-- Whether a pattern matches a text. -/
def matchesText (p : Pattern) (text : String) : Bool :=
  p.accepts (Text.toOctets text)

/-- How many bytes at the front of a text a pattern matches: the fewest or the most. -/
def frontLength? (p : Pattern) (longest : Bool) (text : List UInt8) : Option Nat :=
  let lengths := List.range (text.length + 1)
  (if longest then lengths.reverse else lengths).find? fun n => p.accepts (text.take n)

/-- How many bytes at the back of a text a pattern leaves: the most or the fewest. -/
def restLength? (p : Pattern) (longest : Bool) (text : List UInt8) : Option Nat :=
  let lengths := List.range (text.length + 1)
  (if longest then lengths else lengths.reverse).find? fun n => p.accepts (text.drop n)

/-- A text without what a pattern matches at its front. -/
def withoutFront (p : Pattern) (longest : Bool) (text : List UInt8) : List UInt8 :=
  text.drop ((p.frontLength? longest text).getD 0)

/-- A text without what a pattern matches at its back. -/
def withoutBack (p : Pattern) (longest : Bool) (text : List UInt8) : List UInt8 :=
  text.take ((p.restLength? longest text).getD text.length)

end Pattern

end ModuleBundler.Shell
