/-
# ModuleBundler.Toml.Error -- what is wrong with a document

A document is refused with a message and the part of it that is to blame: the
character where reading it stopped, the value that is of the wrong kind, or the
header of the table that lacks something. Places are counted in characters that
are left. The message may be empty: then the place says it all.

`Error.render` shows the line of the document with marks below that part.
-/

import ModuleBundler.Text.Search
import ModuleBundler.Text.Utf8

namespace ModuleBundler.Toml

/-- A part of a document, by the numbers of characters that are left from its
first one on, and behind its last one. -/
structure Span where
  start : Nat
  stop : Nat
  deriving DecidableEq, Repr

namespace Span

/-- The part of one character, which is empty at the end of the document. -/
def single (remaining : Nat) : Span := ⟨remaining, remaining - 1⟩

/-- The part from the start of one part to the end of another. -/
def through (first last : Span) : Span := ⟨first.start, last.stop⟩

end Span

/-- Why a document was refused. -/
structure Error where
  message : String
  place : Option Span := none
  deriving DecidableEq, Repr

namespace Error

/-- The error of reading that stopped where so many characters are left. -/
def stopped (message : String) (remaining : Nat) : Error :=
  ⟨message, some (.single remaining)⟩

/-! ## Showing the place -/

/-- Where a document is refused. -/
structure Position where
  /-- How many lines stand above. -/
  line : Nat
  /-- How many characters of the line stand in front. -/
  column : Nat
  deriving DecidableEq, Repr

/-- The position with which so many characters are left. In front of a character
outside ASCII, the line is counted in bytes. The end of the document is the place
behind its last character, also where that one ends a line. -/
def position (document : List Char) (remaining : Nat) : Position :=
  let shown := max 1 remaining
  let before := document.take (document.length - shown)
  let front := before.reverse.takeWhile (· ≠ '\n')
  let beyond := if remaining = 0 && !document.isEmpty then 1 else 0
  let marked := document.drop (document.length - remaining)
  let column := match marked with
    | c :: _ => if 1 < c.utf8Size then Text.byteLength front else front.length
    | [] => front.length
  { line := before.count '\n', column := column + beyond }

/-- The text of an error in a document. The marks cover as many bytes as the part
to blame, as far as its first line goes. -/
def render (document : List Char) (e : Error) : String :=
  match e.place with
  | none => e.message ++ "\n"
  | some span =>
    let ⟨line, column⟩ := position document span.start
    let content := ((Text.splitOn '\n' document)[line]?).getD []
    let part := (document.drop (document.length - span.start)).take (span.start - span.stop)
    let marks := min (Text.byteLength part) (Text.byteLength content - column)
    let number := Nat.repr (line + 1)
    let margin := "".pushn ' ' (number.length + 1) ++ "|"
    "TOML parse error at line " ++ number ++ ", column " ++ Nat.repr (column + 1) ++ "\n" ++
      margin ++ "\n" ++
      number ++ " | " ++ String.ofList content ++ "\n" ++
      margin ++ "".pushn ' ' (column + 1) ++ "".pushn '^' (max 1 marks) ++ "\n" ++
      e.message ++ "\n"

end Error

end ModuleBundler.Toml
