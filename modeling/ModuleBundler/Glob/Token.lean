/-
# ModuleBundler.Glob.Token -- the parts of a glob pattern and their meaning

`?` stands for one byte and `*` for any run of bytes, neither for a `/`. `**` as
a whole segment stands for any number of directories. `[..]` is a class, which
may contain `/`, and `{..,..}` a choice between branches.

The text is matched byte by byte. A class whose ends are outside ASCII therefore
holds the single bytes of these characters, and a range between two characters
runs from the last byte of one to the first byte of the other.

A branch of a choice that would write nothing is no branch, and a choice without
branches writes nothing itself.
-/

import ModuleBundler.Glob.Regex

namespace ModuleBundler.Glob

/-- One part of a glob pattern. -/
inductive Token where
  | literal (c : Char)
  /-- A `?`. -/
  | anyOne
  /-- A `*`. -/
  | anyRun
  /-- A `**` in front of the first `/`. -/
  | treePrefix
  /-- A `**` behind the last `/`. -/
  | treeSuffix
  /-- A `**` between two slashes. -/
  | treeBetween
  | class (negated : Bool) (ranges : List (Char × Char))
  | choice (branches : List (List Token))
  deriving Repr

/-! ## Bytes -/

/-- The UTF-8 bytes of a character. -/
def bytesOfChar (c : Char) : List UInt8 :=
  String.utf8EncodeChar c

/-- The byte of `/`. -/
def slash : UInt8 := 0x2F

/-- The byte ranges of a range of characters. -/
def bytesOfRange (first last : Char) : List (UInt8 × UInt8) :=
  let single (b : UInt8) := (b, b)
  if first = last then (bytesOfChar first).map single
  else
    let low := bytesOfChar first
    let high := bytesOfChar last
    low.dropLast.map single ++ [(low.getLastD 0, high.headD 0)] ++ high.tail.map single

/-! ## Meaning -/

/-- Expressions one behind the other. -/
def sequence : List Regex → Regex
  | [] => .nothing
  | [r] => r
  | r :: rest => .seq r (sequence rest)

/-- A choice between expressions, of which there is at least one. -/
def oneOf (first : Regex) : List Regex → Regex
  | [] => first
  | second :: rest => .alt first (oneOf second rest)

/-- Any text. -/
def anything : Regex := .star (.byte .full)

/-- A single slash. -/
def oneSlash : Regex := .byte (.single slash)

mutual

/-- The expression a part stands for; none for a part that writes nothing. -/
def Token.regex? : Token → Option Regex
  | .literal c => some (sequence ((bytesOfChar c).map fun b => .byte (.single b)))
  | .anyOne => some (.byte (.allBut slash))
  | .anyRun => some (.star (.byte (.allBut slash)))
  | .treePrefix => some (.alt (.alt .nothing oneSlash) (.seq anything oneSlash))
  | .treeSuffix => some (.seq oneSlash anything)
  | .treeBetween => some (.alt oneSlash (.seq oneSlash (.seq anything oneSlash)))
  | .class negated ranges =>
    some (.byte ⟨negated, ranges.flatMap fun range => bytesOfRange range.1 range.2⟩)
  | .choice branches =>
    match branchRegexes branches with
    | [] => none
    | first :: rest => some (oneOf first rest)

/-- The expression a row of parts stands for; none if no part writes anything. -/
def rowRegex? : List Token → Option Regex
  | [] => none
  | token :: rest =>
    match token.regex?, rowRegex? rest with
    | none, r => r
    | r, none => r
    | some r, some s => some (.seq r s)

/-- The expressions of the branches that write something. -/
def branchRegexes : List (List Token) → List Regex
  | [] => []
  | branch :: rest =>
    match rowRegex? branch with
    | some r => r :: branchRegexes rest
    | none => branchRegexes rest

end

/-- The expression a whole pattern stands for. A pattern that is only `**`
matches everything. -/
def patternRegex (tokens : List Token) : Regex :=
  match tokens with
  | [.treePrefix] => anything
  | tokens => (rowRegex? tokens).getD .nothing

end ModuleBundler.Glob
