/-
# ModuleBundler.Toml.Reader -- reading from the front of a text

A reader takes something from the front of a text, or refuses it. When it refuses,
the text that is left shows how far it came. A refusal is either final, or it
leaves the choice to try something else from where the reader started.

What is said about a refusal is collected on the way out: the innermost name of
what was being read counts, and the things that might have stood in its place are
listed from the inside to the outside.
-/

import ModuleBundler.Toml.Error

namespace ModuleBundler.Toml

/-- Why a text was refused. -/
structure Refusal where
  /-- Whether nothing else may be tried in its place. -/
  final : Bool := false
  /-- The innermost thing that was being read, if it has a name. -/
  reading : Option String := none
  /-- What might have stood in this place. -/
  wanted : List String := []
  /-- What is wrong with a thing that was read to its end. -/
  cause : Option String := none
  deriving DecidableEq, Repr

namespace Refusal

/-- What the refusal says, one line for each part of it. -/
def message (r : Refusal) : String :=
  "\n".intercalate (
    (r.reading.map fun what => "invalid " ++ what).toList ++
    (if r.wanted.isEmpty then [] else ["expected " ++ ", ".intercalate r.wanted]) ++
    r.cause.toList)

end Refusal

/-- Reads something from the front of a text. -/
abbrev Reader := ExceptT Refusal (StateM (List Char))

namespace Reader

variable {α β : Type}

/-- Refuses the text at this place. -/
def refuse : Reader α := throw {}

/-- A reader whose refusals are changed. -/
def adjusted (change : Refusal → Refusal) (read : Reader α) : Reader α :=
  tryCatch read fun r => throw (change r)

/-- A reader that is not replaced by another: what it refuses is refused. -/
def final : Reader α → Reader α :=
  adjusted fun r => { r with final := true }

/-- A reader of something that has a name. -/
def named (what : String) : Reader α → Reader α :=
  adjusted fun r => { r with reading := r.reading <|> some what }

/-- A reader in whose place one of a few things might stand. -/
def wanting (names : List String) : Reader α → Reader α :=
  adjusted fun r => { r with wanted := r.wanted ++ names }

/-- Reads one thing or, unless that is refused for good, another. -/
def orElse (first second : Reader α) : Reader α := do
  let start ← get
  tryCatch first fun r => if r.final then throw r else do set start; second

/-- Reads something, if it is there. -/
def maybe (read : Reader α) : Reader (Option α) :=
  orElse (some <$> read) (pure none)

/-- Reads something that has to pass a test; what fails it is refused as a whole. -/
def checked (read : Reader α) (test : α → Except String β) : Reader β := do
  let start ← get
  match test (← read) with
  | .ok b => return b
  | .error cause => do
    set start
    throw { cause := some cause }

/-- Reads something, and notes where it is written. -/
def spanned (read : Reader α) : Reader (Span × α) := do
  let start := (← get).length
  let a ← read
  return (⟨start, (← get).length⟩, a)

/-! ## Repetition -/

/-- Reads things of a kind as long as they are there, up to a number of them. -/
def manyUpTo (read : Reader α) : Nat → Reader (List α)
  | 0 => return []
  | n + 1 => do
    match ← maybe read with
    | some a => return a :: (← manyUpTo read n)
    | none => return []

/-- Reads things of a kind, none of them empty, as long as they are there. -/
def many (read : Reader α) : Reader (List α) := do
  manyUpTo read (← get).length

/-- Reads at least one thing of a kind. -/
def many1 (read : Reader α) : Reader (List α) := do
  return (← read) :: (← many read)

/-- Reads at least one thing of a kind, with separators between them. A separator
that no such thing follows stays. -/
def separated1 (separator : Reader Unit) (read : Reader α) : Reader (List α) := do
  return (← read) :: (← many (do separator; read))

/-- Reads things of a kind with separators between them. -/
def separated (separator : Reader Unit) (read : Reader α) : Reader (List α) := do
  return (← maybe (separated1 separator read)).getD []

/-! ## Characters -/

/-- The next character, which stays. -/
def peek? : Reader (Option Char) := do
  return (← get).head?

/-- Reads a character of a class. -/
def oneOf (p : Char → Bool) : Reader Char := do
  match ← get with
  | c :: rest => if p c then do set rest; return c else refuse
  | [] => refuse

/-- Reads certain characters. -/
def text (word : List Char) : Reader Unit := do
  let rest ← get
  if word.isPrefixOf rest then set (rest.drop word.length) else refuse

/-- Reads one certain character. -/
def char (c : Char) : Reader Unit := text [c]

/-- Reads the longest run of characters of a class. -/
def run (p : Char → Bool) : Reader (List Char) := do
  let rest ← get
  set (rest.dropWhile p)
  return rest.takeWhile p

/-- Reads the longest run of characters of a class, which has to have some. -/
def run1 (p : Char → Bool) : Reader (List Char) := do
  return (← oneOf p) :: (← run p)

/-- Reads nothing where a text ends. -/
def atEnd : Reader Unit := do
  unless (← get).isEmpty do refuse

/-- What a reader makes of a whole text: what it read, or the error of the place
where it stopped. -/
def apply (read : Reader α) (rest : List Char) : Except Error α :=
  match read rest with
  | (.ok a, _) => .ok a
  | (.error r, left) => .error (.stopped r.message left.length)

end Reader

/-- How the names of characters are written in messages. -/
def inTicks (text : String) : String := "\x60" ++ text ++ "\x60"

/-! ## Blanks, line ends and comments -/

/-- Whether a character is white space within a line. -/
def isWhite (c : Char) : Bool :=
  c == ' ' || c == '\t'

/-- Whether a character may stand in a comment or a literal string. -/
def isPrintable (c : Char) : Bool :=
  c == '\t' || (0x20 ≤ c.toNat && c.toNat ≠ 0x7F)

/-- Passes over white space within a line. -/
def skipWhite : Reader Unit :=
  discard (Reader.run isWhite)

/-- Reads a line end: a line feed, with or without a carriage return in front. Any
other character is refused behind it. -/
def lineEnd : Reader Unit := do
  match ← Reader.oneOf fun _ => true with
  | '\n' => return
  | '\r' => Reader.char '\n'
  | _ => Reader.refuse

/-- Reads the end of a line, or of the text. -/
def lineEndOrEnd : Reader Unit :=
  Reader.orElse lineEnd Reader.atEnd

/-- Reads a comment; the line end stays. -/
def comment : Reader Unit := do
  Reader.char '#'
  let _ ← Reader.run isPrintable

/-- Reads what may stand behind a value or a header: a comment, and the end of
the line or text. -/
def restOfLine : Reader Unit :=
  Reader.wanting ["newline", inTicks "#"] do
    skipWhite
    let _ ← Reader.maybe comment
    lineEndOrEnd

/-- Passes over white space, comments and line ends. The number bounds the lines. -/
def skipLines : Nat → Reader Unit
  | 0 => skipWhite
  | lines + 1 => do
    skipWhite
    match ← Reader.peek? with
    | some '#' => do
      comment
      lineEnd
      skipLines lines
    | some c => if c = '\n' || c = '\r' then do lineEnd; skipLines lines else return ()
    | none => return ()

/-- Passes over everything between the values of an array. -/
def skipBetween : Reader Unit := do
  skipLines (← get).length

end ModuleBundler.Toml
