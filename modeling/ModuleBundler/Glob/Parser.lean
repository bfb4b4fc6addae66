/-
# ModuleBundler.Glob.Parser -- reading glob patterns

A pattern is read from left to right in one pass. `**` is special only where it
fills a whole segment; elsewhere it is two `*`. Inside a choice, a branch counts
as a pattern of its own for this rule. A backslash takes the next character as
it is. In a class, `!` or `^` at the front negates, and `]` or `-` right behind
that is a plain member.

Five things are wrong with a pattern: a class or choice that is not closed, a
choice that is closed but not open, a range that runs backwards, and a backslash
at the end (`SyntaxError`).
-/

import ModuleBundler.Glob.Marking
import ModuleBundler.Glob.Token

namespace ModuleBundler.Glob

/-- What is wrong with a pattern. -/
inductive SyntaxError where
  | unclosedClass
  | invalidRange (first last : Char)
  | unopenedChoice
  | unclosedChoice
  | danglingEscape
  deriving DecidableEq, Repr

namespace SyntaxError

/-- The wording of the error. -/
def message : SyntaxError → String
  | unclosedClass => "unclosed character class; missing ']'"
  | invalidRange first last =>
    String.ofList ("invalid range; '".toList ++ first :: "' > '".toList ++ [last, '\''])
  | unopenedChoice =>
    "unopened alternate group; missing '\x7b' (maybe escape '\x7d' with '[\x7d]'?)"
  | unclosedChoice =>
    "unclosed alternate group; missing '\x7d' (maybe escape '\x7b' with '[\x7b]'?)"
  | danglingEscape => "dangling '\\'"

end SyntaxError

/-! ## Classes -/

/-- A class that is being read. -/
structure OpenClass where
  negated : Bool := false
  /-- The ranges read so far, last one first. -/
  ranges : List (Char × Char) := []
  /-- Whether nothing was read yet, so that `!` and `^` negate. -/
  fresh : Bool := true
  /-- Whether a `-` was read that may start a range. -/
  inRange : Bool := false
  deriving DecidableEq, Repr

namespace OpenClass

/-- Adds one member, or ends the range that a `-` started. -/
def add (k : OpenClass) (c : Char) : Except SyntaxError OpenClass :=
  match k.inRange, k.ranges with
  | true, (first, _) :: rest =>
    if c < first then .error (.invalidRange first c)
    else .ok { k with ranges := (first, c) :: rest, fresh := false, inRange := false }
  | _, ranges => .ok { k with ranges := (c, c) :: ranges, fresh := false, inRange := false }

/-- The class as a part of the pattern; a `-` at the end is a plain member. -/
def close (k : OpenClass) : Token :=
  let ranges := if k.inRange then ('-', '-') :: k.ranges else k.ranges
  .class k.negated ranges.reverse

end OpenClass

/-! ## The state of reading -/

/-- A choice that is open: the branches already read, and the row that the
choice stands in, last part first. -/
structure OpenChoice where
  branches : List (List Token)
  before : List Token
  deriving Repr

/-- What was read so far. -/
structure State where
  /-- The parts of the branch that is being read, last one first. -/
  row : List Token := []
  /-- The choices around it, the innermost first. -/
  choices : List OpenChoice := []
  /-- The class that is being read. -/
  openClass : Option OpenClass := none
  /-- The character read last. -/
  previous : Option Char := none
  deriving Repr

namespace State

/-- Adds one part. -/
def push (s : State) (token : Token) : State :=
  { s with row := token :: s.row }

/-- Opens a choice. -/
def openChoice (s : State) : State :=
  { s with row := [], choices := ⟨[], s.row⟩ :: s.choices }

/-- A comma: the next branch of a choice, or itself outside of one. -/
def comma (s : State) : State :=
  match s.choices with
  | [] => s.push (.literal ',')
  | choice :: outer =>
    { s with row := [], choices := { choice with branches := s.row.reverse :: choice.branches } :: outer }

/-- Closes the innermost choice. -/
def closeChoice (s : State) : Except SyntaxError State :=
  match s.choices with
  | [] => .error .unopenedChoice
  | choice :: outer =>
    .ok { s with
      row := .choice (s.row.reverse :: choice.branches).reverse :: choice.before
      choices := outer }

/-- Puts a `**` behind a slash in place of the part that ended in the slash; a
`**` that is there already takes it in. -/
def replaceSlash (s : State) (token : Token) : State :=
  match s.row with
  | .treePrefix :: _ => s
  | .treeSuffix :: _ => s
  | _ :: before => { s with row := token :: before }
  | [] => s.push token

/-- Reads `**`; `next` is the character behind it. The answer says whether the
`/` behind it belongs to it. -/
def doubleStar (s : State) (next : Option Char) : State × Bool :=
  let plain := (s.push .anyRun).push .anyRun
  let inChoice := !s.choices.isEmpty
  if s.row.isEmpty then
    match next with
    | none => (s.push .treePrefix, false)
    | some c => if c = '/' then (s.push .treePrefix, true) else (plain, false)
  else if s.previous == some '/' ||
      (inChoice && (s.previous == some ',' || s.previous == some '\x7b')) then
    match next with
    | none => (s.replaceSlash .treeSuffix, false)
    | some c =>
      if inChoice && (c = ',' || c = '\x7d') then (s.replaceSlash .treeSuffix, false)
      else if c = '/' then (s.replaceSlash .treeBetween, true)
      else (plain, false)
  else (plain, false)

/-- Reads one character of a class. -/
def classChar (s : State) (k : OpenClass) (c : Char) : Except SyntaxError State :=
  if k.fresh && k.ranges.isEmpty && !k.negated && (c = '!' || c = '^') then
    .ok { s with openClass := some { k with negated := true } }
  else if c = ']' && !k.fresh then
    .ok { s with row := k.close :: s.row, openClass := none }
  else if c = '-' && !k.fresh && !k.inRange then
    .ok { s with openClass := some { k with inRange := true } }
  else (k.add c).map fun k => { s with openClass := some k }

/-- What is wrong at the end of a pattern, or the parts that were read. -/
def finish (s : State) : Except SyntaxError (List Token) :=
  if s.openClass.isSome then .error .unclosedClass
  else if s.choices.isEmpty then .ok s.row.reverse
  else .error .unclosedChoice

end State

/-! ## Reading -/

/-- Reads the rest of a pattern. -/
def parseFrom (s : State) : List Char → Except SyntaxError (List Token)
  | [] => s.finish
  | c :: rest =>
    let seen := { s with previous := some c }
    match s.openClass with
    | some k =>
      match seen.classChar k c with
      | .ok s => parseFrom s rest
      | .error e => .error e
    | none =>
      if c = '?' then parseFrom (seen.push .anyOne) rest
      else if c = '*' then
        match rest with
        | '*' :: behind =>
          match s.doubleStar behind.head?, behind with
          | (s, true), _ :: behind => parseFrom { s with previous := some '/' } behind
          | (s, _), behind => parseFrom { s with previous := some '*' } behind
        | rest => parseFrom (seen.push .anyRun) rest
      else if c = '[' then parseFrom { seen with openClass := some {} } rest
      else if c = '\x7b' then parseFrom seen.openChoice rest
      else if c = '\x7d' then
        match seen.closeChoice with
        | .ok s => parseFrom s rest
        | .error e => .error e
      else if c = ',' then parseFrom seen.comma rest
      else if c = '\\' then
        match rest with
        | [] => .error .danglingEscape
        | d :: rest => parseFrom { seen.push (.literal d) with previous := some d } rest
      else parseFrom (seen.push (.literal c)) rest

/-- Reads a pattern. -/
def parse (pattern : List Char) : Except SyntaxError (List Token) :=
  parseFrom {} pattern

/-- Whether a pattern, once read, matches a path. -/
def accepts (tokens : List Token) (path : String) : Bool :=
  (patternRegex tokens).accepts path.toUTF8.toList

end ModuleBundler.Glob
