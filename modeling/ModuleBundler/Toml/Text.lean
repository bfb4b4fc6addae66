/-
# ModuleBundler.Toml.Text -- strings and keys

Strings are written in four ways: in quotes or apostrophes, on one line or, with
the mark written three times, on several. Quoted strings know escapes; strings in
apostrophes stand as they are. On several lines, a line end directly behind the
opening mark is dropped, every other one becomes a line feed, and a backslash at
the end of a line takes away all white space up to the next text.
-/

import ModuleBundler.Toml.Reader

namespace ModuleBundler.Toml

open Reader

/-! ## Escapes -/

/-- The value of a hexadecimal digit. -/
def hexValue? (c : Char) : Option Nat :=
  if c.isDigit then some (c.toNat - '0'.toNat)
  else if 'a' ≤ c && c ≤ 'f' then some (c.toNat - 'a'.toNat + 10)
  else if 'A' ≤ c && c ≤ 'F' then some (c.toNat - 'A'.toNat + 10)
  else none

/-- Whether a character is a digit of base 16. -/
def isHex (c : Char) : Bool := (hexValue? c).isSome

/-- The number that digits write in a base up to sixteen. -/
def number (base : Nat) (digits : List Char) : Nat :=
  digits.foldl (fun n c => base * n + (hexValue? c).getD 0) 0

/-- What is said of a number that is none of the numbers it may be. -/
def outOfRange : String := "value is out of range"

/-- The character that hexadecimal digits name; surrogates are none. -/
def scalar (digits : List Char) : Except String Char :=
  let n := number 16 digits
  if n < 0xD800 || (0xDFFF < n && n ≤ 0x10FFFF) then .ok (Char.ofNat n) else .error outOfRange

/-- Reads the character that so many hexadecimal digits name. -/
def hexEscape (count : Nat) : Reader Char :=
  final (named ("unicode " ++ Nat.repr count ++ "-digit hex code") (checked digits scalar))
where
  /-- Reads the digits. -/
  digits : Reader (List Char) := do
    let rest ← get
    let ds := rest.take count
    if ds.length = count && ds.all isHex then
      set (rest.drop count)
      return ds
    else refuse

/-- The character that an escape of one letter stands for. -/
def shortEscape? (c : Char) : Option Char :=
  if c = 'b' then some '\x08'
  else if c = 't' then some '\t'
  else if c = 'n' then some '\n'
  else if c = 'f' then some '\x0c'
  else if c = 'r' then some '\r'
  else if c = '"' then some '"'
  else if c = '\\' then some '\\'
  else none

/-- What may follow a backslash. -/
def escapeNames : List String :=
  ["b", "f", "n", "r", "t", "u", "U", "\\", "\""].map inTicks

/-- Reads an escape. A letter that makes none is passed over before it is refused,
unless it is outside ASCII. -/
def escape : Reader Char := do
  char '\\'
  match ← get with
  | [] => refuse
  | c :: rest =>
    if c.toNat < 0x80 then set rest
    if c = 'u' then hexEscape 4
    else if c = 'U' then hexEscape 8
    else match shortEscape? c with
      | some s => return s
      | none => final (named "escape sequence" (wanting escapeNames refuse))

/-! ## Quoted strings -/

/-- Whether a character stands for itself in a quoted string. -/
def isPlain (c : Char) : Bool :=
  isPrintable c && c != '"' && c != '\\'

/-- Reads a quoted string of one line. -/
def quotedLine : Reader (List Char) := do
  char '"'
  let parts ← many (orElse (run1 isPlain) (List.singleton <$> escape))
  final (named "basic string" (char '"'))
  return parts.flatten

/-- Three of the mark that opens and closes a string of several lines. -/
def tripled (mark : Char) : Reader Unit := text (List.replicate 3 mark)

/-- Reads one or two marks, if that follows which may follow them. -/
def marks (mark : Char) (behind : Reader Unit) : Reader (List Char) :=
  orElse (one [mark, mark]) (one [mark])
where
  /-- Reads these marks. -/
  one (ms : List Char) : Reader (List Char) := do
    text ms
    let rest ← get
    behind
    set rest
    return ms

/-- Reads the marks inside a string of several lines, which something follows that
is none. -/
def innerMarks (mark : Char) : Reader (List Char) :=
  marks mark (discard (oneOf fun c => c != mark))

/-- Reads the marks that belong to the text of a string of several lines, at its end. -/
def lastMarks (mark : Char) : Reader (List Char) := do
  return (← maybe (marks mark (tripled mark))).getD []

/-- Reads a line end as a line feed. -/
def lineFeed : Reader (List Char) := do
  lineEnd
  return ['\n']

/-- Passes over backslashes at line ends, with the white space and the empty lines
behind them. -/
def joinLines : Reader (List Char) := do
  let _ ← many1 (do
    char '\\'
    skipWhite
    lineEnd
    many (orElse lineEnd (discard (run1 isWhite))))
  return []

/-- Reads a part of a quoted string of several lines. -/
def blockPart : Reader (List Char) :=
  orElse (run1 isPlain) (orElse joinLines (orElse (List.singleton <$> escape) lineFeed))

/-- Reads the text between quotes that belong to a string of several lines. Quotes
are passed over even if nothing follows them that could stand in the string. -/
def blockRuns : Nat → Reader (List Char)
  | 0 => return []
  | runs + 1 => do
    match ← maybe (innerMarks '"') with
    | none => return []
    | some quotes =>
      match ← many blockPart with
      | [] => return []
      | parts => return quotes ++ parts.flatten ++ (← blockRuns runs)

/-- Reads a quoted string of several lines. Up to two quotes directly in front of
the closing ones belong to the text. -/
def quotedBlock : Reader (List Char) :=
  named "multiline basic string" do
    tripled '"'
    let _ ← maybe lineEnd
    let body ← final (do
      let first ← many blockPart
      let runs ← blockRuns (← get).length
      return first.flatten ++ runs ++ (← lastMarks '"'))
    final (tripled '"')
    return body

/-! ## Strings in apostrophes -/

/-- Whether a character stands in a string in apostrophes. -/
def isLiteral (c : Char) : Bool :=
  isPrintable c && c != '\''

/-- Reads a string of one line in apostrophes. -/
def literalLine : Reader (List Char) :=
  named "literal string" do
    char '\''
    let body ← run isLiteral
    final (char '\'')
    return body

/-- Reads a string of several lines in apostrophes. Up to two apostrophes directly
in front of the closing ones belong to the text. -/
def literalBlock : Reader (List Char) :=
  named "multiline literal string" do
    tripled '\''
    let _ ← maybe lineEnd
    let first ← many part
    let runs ← many (do return (← innerMarks '\'') ++ (← many1 part).flatten)
    let last ← lastMarks '\''
    final (tripled '\'')
    return first.flatten ++ runs.flatten ++ last
where
  /-- Reads a part of the text without apostrophes. -/
  part : Reader (List Char) := orElse (run1 isLiteral) lineFeed

/-! ## Strings and keys -/

/-- Reads a string of any kind. -/
def readString : Reader String :=
  String.ofList <$> orElse quotedBlock (orElse quotedLine (orElse literalBlock literalLine))

/-- Whether a character may stand in a key without quotes. -/
def isBareKey (c : Char) : Bool :=
  c.isAlphanum || c == '_' || c == '-'

/-- One part of a key, and where it is written. -/
structure Key where
  text : String
  place : Span
  deriving DecidableEq, Repr

/-- Reads one part of a key. -/
def readKeyPart : Reader String := do
  match ← peek? with
  | some '"' => String.ofList <$> quotedLine
  | some '\'' => String.ofList <$> literalLine
  | _ => String.ofList <$> run1 isBareKey

/-- The number of parts that no key may reach, and of values around a value. -/
def depthLimit : Nat := 80

/-- What is said of a value or key of too many levels. -/
def tooDeep : String := "recursion limit exceeded"

/-- Reads a key: parts between dots, with white space around them. -/
def readKey : Reader (List Key) :=
  checked (named "key" (separated1 (char '.') part)) fun key =>
    if depthLimit ≤ key.length then .error tooDeep else .ok key
where
  /-- Reads a part with the white space around it. -/
  part : Reader Key := do
    skipWhite
    let (place, text) ← readKeyPart.spanned
    skipWhite
    return ⟨text, place⟩

/-- A key as it could be written: without quotes where it needs none, and in
apostrophes where that spares it escapes. -/
def Key.written (k : Key) : String :=
  let cs := k.text.toList
  if !cs.isEmpty && cs.all isBareKey then k.text
  else if cs.all isLiteral && !cs.all isPlain then "'" ++ k.text ++ "'"
  else "\"" ++ String.ofList (cs.flatMap escaped) ++ "\""
where
  /-- A character of a quoted key. -/
  escaped (c : Char) : List Char :=
    if c = '\x08' then ['\\', 'b']
    else if c = '\t' then ['\\', 't']
    else if c = '\n' then ['\\', 'n']
    else if c = '\x0c' then ['\\', 'f']
    else if c = '\r' then ['\\', 'r']
    else if c = '"' then ['\\', '"']
    else if c = '\\' then ['\\', '\\']
    else if isPrintable c then [c]
    else
      let digits := Nat.toDigits 16 c.toNat
      '\\' :: 'u' :: (List.replicate (4 - digits.length) '0' ++ digits.map Char.toUpper)

end ModuleBundler.Toml
