/-
# ModuleBundler.Toml.Document -- reading TOML documents

The grammar is that of TOML 1.0. A byte order mark at the start is dropped.
Values may be nested eighty deep, and keys may have as many parts, but not more.

An entry that does not fit what stands above it is refused where it starts, and so
is a header; for a table in place, that is behind its brace.
-/

import ModuleBundler.Toml.Number
import ModuleBundler.Toml.Section

namespace ModuleBundler.Toml

open Reader

/-! ## Entries -/

/-- What may follow the key of an entry. -/
def assignNames : List String := [inTicks ".", inTicks "="]

/-- Reads an entry: its key, its value, and what `behind` passes over. -/
def readEntry (value : Reader Value) (behind : Reader Unit) : Reader (List Key × Placed) := do
  let key ← readKey
  final do
    wanting assignNames (char '=')
    skipWhite
    let v ← value.spanned
    behind
    return (key, v)

/-- The parts of a key in front of the last one, and the last one. -/
def splitKey (key : List Key) : List Key × Key :=
  (key.dropLast, key.getLastD ⟨"", ⟨0, 0⟩⟩)

/-! ## Values -/

/-- Reads the entries of a table in place. -/
def readInline (value : Reader Value) : Reader Value :=
  checked entries fun written =>
    ((written.foldlM add []).mapError Conflict.message).map fun s => .table (finishEntries s)
where
  /-- Reads the entries as they are written. -/
  entries : Reader (List (List Key × Placed)) := do
    let written ← separated (char ',') (readEntry value skipWhite)
    skipWhite
    return written
  /-- Adds an entry to those above it. -/
  add (s : Section) (entry : List Key × Placed) : Except Conflict Section :=
    let (path, last) := splitKey entry.1
    (s.assign none path last.text (.inPlace entry.2.1 entry.2.2) (.headed entry.2.1)).map Prod.snd

/-- Reads a table in place. -/
def readTable (value : Reader Value) : Reader Value := do
  char '\x7b'
  let table ← final (readInline value)
  final (named "inline table" (wanting [inTicks "\x7d"] (char '\x7d')))
  return table

/-- Reads the values of an array. A comma may follow the last one. -/
def readItems (value : Reader Value) : Reader (List Placed) := do
  if (← peek?) = some ']' then return []
  let items ← separated (char ',') (do
    skipBetween
    let v ← value.spanned
    skipBetween
    return v)
  unless items.isEmpty do
    let _ ← maybe (char ',')
  skipBetween
  return items

/-- Reads an array. -/
def readArray (value : Reader Value) : Reader Value := do
  char '['
  let items ← final (readItems value)
  final (named "array" (wanting [inTicks "]"] (char ']')))
  return .array items

/-- A reader that is taken for one of strings where it refuses. -/
def orString {α : Type} (read : Reader α) : Reader α :=
  named "string" (wanting [inTicks "\"", inTicks "'"] read)

/-- A reader of numbers where none of their digits stands in front. -/
def orDigit {α : Type} (read : Reader α) : Reader α :=
  wanting ["leading digit"] read

/-- Reads a value that holds others; `inner` reads those, and is missing where none
may follow. -/
def readNested (read : Reader Value → Reader Value) (inner : Option (Reader Value)) :
    Reader Value :=
  match inner with
  | none => throw { final := true, cause := some tooDeep }
  | some inner => read inner

/-- Reads a value; `inner` reads the values that an array or a table in place
holds, and is missing where none may follow. -/
def readValueWith (inner : Option (Reader Value)) : Reader Value := do
  match ← peek? with
  | none => refuse
  | some c =>
    if c = '"' || c = '\'' then .string <$> readString
    else if c = '[' then readNested readArray inner
    else if c = '\x7b' then readNested readTable inner
    else if c.isDigit || c = '+' || c = '-' then readNumber
    else if c = '_' then .integer <$> orDigit readInteger
    else if c = '.' then .float <$> orDigit readFloat
    else if c = 't' then orString (final (do text "true".toList; return .boolean true))
    else if c = 'f' then orString (final (do text "false".toList; return .boolean false))
    else if c = 'i' then .float <$> orString readInfinity
    else if c = 'n' then .float <$> orString readNaN
    else orString refuse

/-- Reads a value that holds others at most the given number of levels deep. -/
def readValue : Nat → Reader Value
  | 0 => readValueWith none
  | depth + 1 => readValueWith (some (readValue depth))

/-! ## Headers -/

/-- What was read of a document so far: its entries, and the header that is open. -/
structure Progress where
  root : Section := []
  header : List Key := []

/-- Reads a header in so many brackets; `openBelow` opens its table. -/
def readHeader (brackets : Nat)
    (openBelow : Span → List Key → Key → Section → Except Conflict Section) (p : Progress) :
    Reader Progress :=
  checked (do
    let header ← spanned (do
      text (List.replicate brackets '[')
      let key ← final readKey
      let closing := List.replicate brackets ']'
      final (wanting [inTicks ".", inTicks (String.ofList closing)] (text closing))
      return key)
    final restOfLine
    return header)
  fun (place, key) =>
    let (path, last) := splitKey key
    match openBelow place path last p.root with
    | .ok root => .ok { root := root, header := key }
    | .error conflict => .error conflict.message

/-- Reads a header of either kind. -/
def readAnyHeader (p : Progress) : Reader Progress :=
  named "table header" do
    match ← get with
    | '[' :: '[' :: _ => readHeader 2 Section.openElement p
    | _ :: _ :: _ => readHeader 1 Section.openTable p
    | _ => refuse

/-! ## Documents -/

/-- Reads an entry of a document, with its line. -/
def readAssignment (p : Progress) : Reader Progress :=
  checked (readEntry (readValue (depthLimit - 1)) restOfLine) fun (key, v) =>
    let (path, last) := splitKey key
    match p.root.assignBelow p.header path last.text v with
    | .ok root => .ok { p with root := root }
    | .error conflict => .error conflict.message

/-- Reads one expression of a document: a header, an entry, a comment or nothing. -/
def readExpression (p : Progress) : Reader Progress := do
  match ← peek? with
  | none => refuse
  | some c =>
    if c = '#' then do
      final (do comment; lineEndOrEnd)
      return p
    else if c = '\n' || c = '\r' then do
      lineEnd
      return p
    else if c = '[' then final (readAnyHeader p)
    else final (readAssignment p)

/-- Reads expressions of a document as long as they are there. The number bounds them. -/
def readExpressions : Nat → Progress → Reader Progress
  | 0, p => return p
  | expressions + 1, p => do
    match ← maybe (do let p ← readExpression p; skipWhite; return p) with
    | some p => readExpressions expressions p
    | none => return p

/-- Reads a document. -/
def readDocument : Reader Table := do
  let _ ← maybe (char '\ufeff')
  skipWhite
  let p ← readExpressions (← get).length {}
  atEnd
  return finishEntries p.root

/-- The data of a document. -/
def parse (text : String) : Except Error Table :=
  readDocument.apply text.toList

end ModuleBundler.Toml
