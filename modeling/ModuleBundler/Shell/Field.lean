/-
# ModuleBundler.Shell.Field -- the fields that words of a script stand for

In a word, parameters, outputs and expressions are put in. What was put in outside of
quotes is split into fields at the characters of `IFS`, and fields with marks of a
pattern stand for the paths that match it. The words of settings, choices and
redirections are put in only, and stay single texts.
-/

import ModuleBundler.Shell.Pattern
import ModuleBundler.Shell.OptionSetting
import ModuleBundler.Shell.Process

namespace ModuleBundler.Shell

/-- A piece of a word whose parts were put in. -/
inductive Piece where
  /-- A character; `splits` tells whether it may end a field. -/
  | char (c : Char) (quoted splits : Bool)
  /-- The end of one of several arguments. -/
  | gap
  /-- Quotes, which make a field even if nothing is between them. -/
  | mark
  deriving DecidableEq, Repr

namespace Piece

/-- The pieces of a value. -/
def ofValue (quoted : Bool) (value : String) : List Piece :=
  (if quoted then [.mark] else []) ++ value.toList.map fun c => .char c quoted !quoted

/-- The pieces of several arguments. -/
def ofArguments (quoted : Bool) (arguments : List String) : List Piece :=
  match arguments with
  | [] => []
  | first :: rest => ofValue quoted first ++ rest.flatMap fun a => .gap :: ofValue quoted a

/-- The glyphs of pieces that make one text; `between` stands between arguments. -/
def glyphs (between : List Char) (pieces : List Piece) : List Glyph :=
  pieces.flatMap fun piece =>
    match piece with
    | .char c quoted _ => [⟨c, quoted⟩]
    | .gap => between.map fun c => ⟨c, false⟩
    | .mark => []

end Piece

/-! ## Splitting -/

/-- How far pieces are split into fields. -/
structure Splitting where
  /-- The fields that are complete, the last one first. -/
  done : List (List Glyph) := []
  /-- The glyphs of the field that was begun, the last one first. -/
  begun : Option (List Glyph) := none
  /-- Whether a blank has ended a field, and no other separator yet. -/
  behindBlank : Bool := false

namespace Splitting

/-- Ends the field that was begun. -/
def close (s : Splitting) : Splitting :=
  match s.begun with
  | some glyphs => { s with done := glyphs.reverse :: s.done, begun := none }
  | none => s

/-- Splits further by one piece, at the given separators. -/
def step (separators : List Char) (s : Splitting) (piece : Piece) : Splitting :=
  match piece with
  | .mark => { s with begun := some (s.begun.getD []), behindBlank := false }
  | .gap => { s.close with behindBlank := false }
  | .char c quoted splits =>
    if splits && separators.contains c then
      if [' ', '\t', '\n'].contains c then
        { s.close with behindBlank := s.begun.isSome || s.behindBlank }
      else if s.begun.isNone && s.behindBlank then { s with behindBlank := false }
      else { ({ s with begun := some (s.begun.getD []) } : Splitting).close with
        behindBlank := false }
    else { s with begun := some (⟨c, quoted⟩ :: s.begun.getD []), behindBlank := false }

/-- The fields of pieces. -/
def fields (separators : List Char) (pieces : List Piece) : List (List Glyph) :=
  (pieces.foldl (step separators) {}).close.done.reverse

end Splitting

/-! ## Paths -/

namespace Glyph

/-- The pieces of glyphs between slashes. -/
def segments : List Glyph → List (List Glyph)
  | [] => [[]]
  | g :: rest =>
    if g.char = '/' then [] :: segments rest
    else match segments rest with
      | [] => [[g]]
      | segment :: more => (g :: segment) :: more

/-- The names in a directory, with those that stand for it and the one above it. -/
def namesIn (t : FileTree) (directory : Location) : List String :=
  [".", ".."] ++ t.entries.filterMap fun entry =>
    if entry.1.dropLast = directory then entry.1.getLast? else none

/-- The paths that a segment adds to a path in front of it. -/
def extended (t : FileTree) (dir : Location) (front : String) (segment : List Glyph) :
    List String :=
  if Pattern.hasMarks segment then
    let directory := if front = "" then some dir else t.directory? dir ⟨front⟩
    match directory with
    | none => []
    | some location =>
      let pattern := Pattern.ofGlyphs segment
      let dotted := segment.head?.map Glyph.char = some '.'
      ((namesIn t location).filter fun name =>
        (dotted || !name.startsWith ".") && pattern.matchesText name).map (front ++ ·)
  else [front ++ textOf segment]

/-- The paths that segments add to paths in front of them. -/
def pathsFrom (t : FileTree) (dir : Location) (fronts : List String) :
    List (List Glyph) → List String
  | [] => fronts
  | [last] => fronts.flatMap fun front => extended t dir front last
  | segment :: rest =>
    pathsFrom t dir
      ((fronts.flatMap fun front => extended t dir front segment).map (· ++ "/")) rest

/-- Puts a text where it belongs among sorted ones. -/
def insertSorted (text : String) : List String → List String
  | [] => [text]
  | first :: rest =>
    if text < first then text :: first :: rest else first :: insertSorted text rest

/-- The paths that match glyphs, sorted. -/
def paths (t : FileTree) (dir : Location) (glyphs : List Glyph) : List String :=
  let found := (pathsFrom t dir [""] (segments glyphs)).filter fun path =>
    match t.destination dir .entry ⟨path⟩ (Path.lookupSteps ⟨path⟩) with
    | .ok (.found _ _) => true
    | _ => false
  found.foldr insertSorted []

end Glyph

/-! ## Parameters -/

namespace Run

/-- The characters at which fields are split. -/
def separators : Run (List Char) := do
  match ← lookup? "IFS" with
  | some { value := some text, .. } => return text.toList
  | _ => return [' ', '\t', '\n']

/-- What stands between arguments that are joined. -/
def joint : Run (List Char) :=
  return (← separators).take 1

/-- The value of a parameter, as one text. -/
def parameter? (name : String) : Run (Option String) := do
  let p ← process
  let joined := (String.ofList (← joint)).intercalate p.arguments
  match name with
  | "#" => return some (Nat.repr p.arguments.length)
  | "?" => return some (Nat.repr p.lastStatus)
  | "-" => return some (OptionSetting.shown p.options)
  | "$" => return some (Nat.repr p.main)
  | "!" => return p.lastJob.map Nat.repr
  | "*" => return some joined
  | "@" => return some joined
  | name =>
    if name.toList.all Char.isDigit then
      match name.toNat? with
      | some 0 => return some p.name
      | some (n + 1) => return p.arguments[n]?
      | none => return none
    else value? name

/-- Refuses a parameter without a value, if the options ask for that. -/
def demand (name : String) (value : Option String) : Run String := do
  match value with
  | some text => return text
  | none =>
    if ← has 'u' then fail (name ++ ": parameter not set")
    else return ""

/-! ## Putting in -/

/-- Gives what a script in a word writes. -/
abbrev Capture := Command → Run String

/-- The pieces that one use of a parameter puts in, given how words are put in. -/
def useParameter (expand : Bool → Word → Run (List Piece)) (name : String) (quoted : Bool)
    (use : Use) : Run (List Piece) := do
  let value ← parameter? name
  let isList := name == "@" || name == "*" && !quoted
  let present (orEmpty : Bool) := value.isSome && !(orEmpty && value == some "")
  let itself : Run (List Piece) := do
    if isList then return Piece.ofArguments quoted (← process).arguments
    else return Piece.ofValue quoted (← demand name value)
  let textOf (word : Word) : Run String := do
    return Glyph.textOf (Piece.glyphs (← joint) (← expand false word))
  match use with
  | .value => itself
  | .length => return Piece.ofValue quoted (Nat.repr (Text.toOctets (← demand name value)).length)
  | .orElse orEmpty word =>
    if present orEmpty then itself
    else return Piece.ofValue quoted "" ++ (← expand true word)
  | .whenSet orEmpty word =>
    let nothing := Piece.ofValue quoted ""
    if present orEmpty then return nothing ++ (← expand true word) else return nothing
  | .orSet orEmpty word =>
    if present orEmpty then itself
    else if !isName name.toList then fail (name ++ ": bad variable name")
    else do
      let text ← textOf word
      assign name text
      return Piece.ofValue quoted text
  | .orFail orEmpty word =>
    if present orEmpty then itself
    else do
      let text ← textOf word
      if word.isEmpty then
        fail (name ++ ": parameter not set" ++ if orEmpty then " or null" else "")
      else fail (name ++ ": " ++ text)
  | .trimmed front longest word => do
    let text := Text.toOctets (← demand name value)
    let pattern := Pattern.ofGlyphs (Piece.glyphs (← joint) (← expand false word))
    return Piece.ofValue quoted
      (Text.ofOctets (if front then pattern.withoutFront longest text
        else pattern.withoutBack longest text))
  | .unknown => fail "Bad substitution"

/-- The value of an arithmetic expression, which may set variables. -/
def compute (text : List Char) : Run String := do
  let look (name : String) : Run String := return (← value? name).getD ""
  let put (name : String) (n : Int64) : Run Unit := assign name (toString n.toInt)
  match ← Arithmetic.evaluate look put text with
  | .error fault => fail (fault.message (String.ofList text))
  | .ok n => return toString n.toInt

/-- A word in which a tilde at the front, before a slash or alone, stands for the
home directory. -/
def withHome (word : Word) : Run Word := do
  match word with
  | .text ('~' :: rest) false :: more =>
    let name := rest.takeWhile (· ≠ '/')
    let behind := rest.dropWhile (· ≠ '/')
    if behind.isEmpty && !more.isEmpty then return word
    else
      let home ← match String.ofList name with
        | "" => value? "HOME"
        | "root" => pure (some "/root")
        | _ => pure none
      match home with
      | some path => return .text path.toList true :: .text behind false :: more
      | none => return word
  | word => return word

/-- The pieces of a word. Within braces, text outside of quotes may be split. The
number bounds how deep words stand in words. -/
def piecesOf (capture : Capture) : Nat → Bool → Word → Run (List Piece)
  | 0, _, _ => fail "word too deep"
  | n + 1, within, word => do
    let parts ← (← withHome word).mapM fun part => do
      match part with
      | .text text quoted =>
        let pieces := text.map fun c => Piece.char c quoted (within && !quoted)
        return if quoted then .mark :: pieces else pieces
      | .parameter name use quoted => useParameter (piecesOf capture n) name quoted use
      | .output script quoted => do
        let written ← capture script
        return Piece.ofValue quoted written
      | .arithmetic expression quoted => do
        let glyphs := Piece.glyphs (← joint) (← piecesOf capture n false expression)
        return Piece.ofValue quoted (← compute (glyphs.map Glyph.char))
    return parts.flatten

/-- How deep words may stand in words. -/
def wordDepth : Nat := 1000

/-- A word of a setting, in which a tilde behind a colon stands for the home
directory, too. -/
def withHomes (word : Word) : Run Word := do
  let parts ← word.zipIdx.mapM fun (part, place) => do
    match part with
    | .text text false => do
      let texts := Text.splitOn ':' text
      let isLast := place + 1 == word.length
      let pieces ← texts.zipIdx.mapM fun (text, n) => do
        let closed := n + 1 < texts.length || isLast
        let piece : Word := [.text text false]
        let piece ← if (n ≠ 0 || place = 0) && closed then withHome piece else pure piece
        return if n = 0 then piece else .text [':'] false :: piece
      return pieces.flatten
    | part => return [part]
  return parts.flatten

/-- The fields of a word. -/
def fieldsOf (capture : Capture) (word : Word) : Run (List String) := do
  let pieces ← piecesOf capture wordDepth false word
  let fields := Splitting.fields (← separators) pieces
  let literal ← has 'f'
  let m ← get
  return fields.flatMap fun glyphs =>
    if literal || !Pattern.hasMarks glyphs then [Glyph.textOf glyphs]
    else match Glyph.paths m.shared.tree m.process.dir glyphs with
      | [] => [Glyph.textOf glyphs]
      | paths => paths

/-- The single text of a word. -/
def textOf (capture : Capture) (word : Word) : Run String := do
  return Glyph.textOf
    (Piece.glyphs (← joint) (← piecesOf capture wordDepth false word))

/-- The single text of a word that a variable is set to. -/
def settingOf (capture : Capture) (word : Word) : Run String := do
  return Glyph.textOf
    (Piece.glyphs (← joint) (← piecesOf capture wordDepth false (← withHomes word)))

/-- The pattern of a word. -/
def patternOf (capture : Capture) (word : Word) : Run Pattern := do
  return Pattern.ofGlyphs
    (Piece.glyphs (← joint) (← piecesOf capture wordDepth false word))

end Run

end ModuleBundler.Shell
