/-
# ModuleBundler.Log.FieldPattern -- the patterns for the values of fields

A directive may name a field together with a value: a truth value, a number, or else a
regular expression that the value of the field has to match. What matters here is
whether an expression is well formed (`FieldPattern.fault?`). It is read from left to
right; what is open around a place is kept as a list of groups.

An expression stands between braces and is no list, so that it holds neither a closing
brace nor a comma: whatever needs one of these is not closed. It ends in front of a
second equals sign, too.
-/

import ModuleBundler.Text.Alphanumeric

namespace ModuleBundler.Log

/-- What is wrong with a pattern. -/
inductive FieldPattern.Fault where
  | malformed
  /-- It looks at the edges of words, which would need a look at all letters. -/
  | wordEdge
  deriving DecidableEq, Repr

namespace FieldPattern

/-- What is said of a fault. -/
def Fault.message : Fault → String
  | malformed => "error building NFA"
  | wordEdge =>
    "unsupported regex feature for DFAs: cannot build DFAs for regexes with Unicode word " ++
      "boundaries; switch to ASCII word boundaries, or heuristically enable Unicode word " ++
      "boundaries or use a different regex engine"

/-- How far a pattern was read. -/
structure Progress where
  /-- For every open group, whether letters were those of all scripts around it. -/
  groups : List Bool := []
  /-- The names that groups have. -/
  names : List (List Char) := []
  /-- Whether letters are those of all scripts. -/
  allScripts : Bool := true
  /-- Whether there is something in front that can be repeated. -/
  repeatable : Bool := false
  /-- Whether the edges of words were looked at. -/
  atWordEdge : Bool := false

/-! ## Escapes -/

/-- What a backslash and the characters behind it stand for. -/
inductive Escape where
  | character (c : Char)
  /-- A class of characters. -/
  | several
  /-- A place between characters; `ofWord` if it is the edge of a word. -/
  | place (ofWord : Bool)
  deriving DecidableEq, Repr

/-- The number that hexadecimal digits write. -/
def hexadecimal? (digits : List Char) : Option Nat :=
  digits.foldlM (fun n c =>
    if c.isDigit then some (16 * n + (c.toNat - '0'.toNat))
    else if 'a' ≤ c.toLower && c.toLower ≤ 'f' then
      some (16 * n + (c.toLower.toNat - 'a'.toNat + 10))
    else none) 0

/-- Reads what stands behind a backslash. -/
def escape? : List Char → Option (Escape × List Char)
  | [] => none
  | c :: rest =>
    let coded (count : Nat) : Option (Escape × List Char) := do
      if (rest.take count).length < count then none
      else
        let n ← hexadecimal? (rest.take count)
        if n.isValidChar then some (.character (Char.ofNat n), rest.drop count) else none
    match c with
    | 'x' => coded 2
    | 'u' => coded 4
    | 'U' => coded 8
    | 'p' => category rest
    | 'P' => category rest
    | 'a' => some (.character '\x07', rest)
    | 'f' => some (.character '\x0c', rest)
    | 't' => some (.character '\t', rest)
    | 'n' => some (.character '\n', rest)
    | 'r' => some (.character '\r', rest)
    | 'v' => some (.character '\x0b', rest)
    | 'A' => some (.place false, rest)
    | 'z' => some (.place false, rest)
    | c =>
      if ['d', 's', 'w', 'D', 'S', 'W'].contains c then some (.several, rest)
      else if ['b', 'B', '<', '>'].contains c then some (.place true, rest)
      else if c.toNat < 0x80 && !c.isAlphanum then some (.character c, rest)
      else none
where
  /-- Reads the letter of a category of characters. -/
  category : List Char → Option (Escape × List Char)
    | c :: rest =>
      if ['c', 'l', 'm', 'n', 'p', 's', 'z'].contains c.toLower then some (.several, rest) else none
    | [] => none

/-! ## Sets of characters -/

/-- The names of the classes of characters in sets. -/
def classNames : List String :=
  ["alnum", "alpha", "ascii", "blank", "cntrl", "digit", "graph", "lower", "print", "punct",
    "space", "upper", "word", "xdigit"]

/-- What stands behind the name of a class and its brackets, if there is one. -/
def behindClass? : List Char → Option (List Char)
  | '[' :: ':' :: text =>
    let text := if text.head? = some '^' then text.drop 1 else text
    let name := text.takeWhile (· ≠ ':')
    match text.dropWhile (· ≠ ':') with
    | ':' :: ']' :: rest => if classNames.contains (String.ofList name) then some rest else none
    | _ => none
  | _ => none

/-- What stands behind the bracket that opens a set, and what is a member there
whatever it is elsewhere: hyphens, and a closing bracket as the first member. -/
def behindOpening (text : List Char) : List Char :=
  let text := if text.head? = some '^' then text.drop 1 else text
  let hyphens := text.takeWhile (· = '-')
  let text := text.dropWhile (· = '-')
  if hyphens.isEmpty && text.head? = some ']' then text.drop 1 else text

/-- Reads a member of a set, or the end of a range. -/
def member? : List Char → Option (Escape × List Char)
  | '\\' :: rest => escape? rest
  | c :: rest => some (.character c, rest)
  | [] => none

/-- What stands behind a set, given how many sets are open. The first number bounds
the characters. -/
def behindSet? : Nat → Nat → List Char → Option (List Char)
  | 0, _, _ => none
  | n + 1, depth, text =>
    match text with
    | [] => none
    | '[' :: rest =>
      match behindClass? text with
      | some rest => behindSet? n depth rest
      | none =>
        let inner := behindOpening rest
        if inner.isEmpty then none else behindSet? n (depth + 1) inner
    | ']' :: rest => if depth ≤ 1 then some rest else behindSet? n (depth - 1) rest
    | '&' :: '&' :: rest => behindSet? n depth rest
    | '-' :: '-' :: rest => behindSet? n depth rest
    | '~' :: '~' :: rest => behindSet? n depth rest
    | text =>
      match member? text with
      | none => none
      | some (first, rest) =>
        let isRange := rest.head? = some '-' && rest[1]? ≠ some ']' && rest[1]? ≠ some '-'
        if isRange then
          match first, member? (rest.drop 1) with
          | .character a, some (.character b, rest) =>
            if a ≤ b then behindSet? n depth rest else none
          | _, _ => none
        else match first with
          | .place _ => none
          | _ => behindSet? n depth rest

/-! ## Groups -/

/-- Whether flags are written as they should be: each once, one sign between those
that are set and those that are taken back, and a flag behind that sign. -/
def areFlags (flags : List Char) : Bool :=
  flags.all (['i', 'm', 's', 'U', 'u', 'R', 'x', '-'].contains ·) &&
    flags.eraseDups.length == flags.length && flags.getLast? != some '-'

/-- Whether a text can name a group. -/
def isGroupName (name : List Char) : Bool :=
  match name with
  | [] => false
  | c :: rest =>
    (c == '_' || Text.isAlphanumeric c && !c.isDigit) &&
      rest.all fun c => ['_', '.', '[', ']'].contains c || Text.isAlphanumeric c

/-- Opens a group with a name. -/
def openNamed (p : Progress) (text : List Char) : Option (Progress × List Char) :=
  let name := text.takeWhile (· ≠ '>')
  if text.length = name.length || !isGroupName name || p.names.contains name then none
  else some
    ({ p with groups := p.allScripts :: p.groups, names := name :: p.names, repeatable := false },
      text.drop (name.length + 1))

/-- Reads what stands behind the parenthesis that opens a group. -/
def opened (p : Progress) (text : List Char) : Option (Progress × List Char) :=
  match text with
  | '?' :: '=' :: _ => none
  | '?' :: '!' :: _ => none
  | '?' :: '<' :: '=' :: _ => none
  | '?' :: '<' :: '!' :: _ => none
  | '?' :: 'P' :: '<' :: rest => openNamed p rest
  | '?' :: '<' :: rest => openNamed p rest
  | '?' :: rest =>
    let flags := rest.takeWhile fun c => c ≠ ':' && c ≠ ')'
    let allScripts :=
      if (flags.takeWhile (· ≠ '-')).contains 'u' then true
      else if flags.contains 'u' then false
      else p.allScripts
    match rest.drop flags.length with
    | ':' :: rest =>
      if areFlags flags then
        some ({ p with
          groups := p.allScripts :: p.groups, allScripts := allScripts, repeatable := false }, rest)
      else none
    | ')' :: rest =>
      if areFlags flags && !flags.isEmpty then
        some ({ p with allScripts := allScripts, repeatable := false }, rest)
      else none
    | _ => none
  | text => some ({ p with groups := p.allScripts :: p.groups, repeatable := false }, text)

/-! ## Expressions -/

/-- Reads a pattern to its end. The number bounds its characters. -/
def progress? : Nat → Progress → List Char → Option Progress
  | 0, _, _ => none
  | n + 1, p, text =>
    match text with
    | [] => if p.groups.isEmpty then some p else none
    | '(' :: rest => (opened p rest).bind fun (p, rest) => progress? n p rest
    | ')' :: rest =>
      match p.groups with
      | [] => none
      | allScripts :: groups =>
        progress? n { p with groups := groups, allScripts := allScripts, repeatable := true } rest
    | '|' :: rest => progress? n { p with repeatable := false } rest
    | '\x7b' :: _ => none
    | '[' :: rest =>
      let inner := behindOpening rest
      (behindSet? (rest.length + 1) 1 inner).bind fun rest =>
        progress? n { p with repeatable := true } rest
    | '\\' :: rest =>
      (escape? rest).bind fun (e, rest) =>
        let atWordEdge := p.atWordEdge || e == .place true && p.allScripts
        progress? n { p with repeatable := true, atWordEdge := atWordEdge } rest
    | c :: rest =>
      if ['*', '+', '?'].contains c then
        if p.repeatable then progress? n p (if rest.head? = some '?' then rest.drop 1 else rest)
        else none
      else progress? n { p with repeatable := true } rest

/-- Whether a text writes a number, or a truth value. -/
def isNumber (text : List Char) : Bool :=
  let word := String.ofList text
  let unsigned := match text with
    | '+' :: rest => rest
    | '-' :: rest => rest
    | text => text
  let whole := unsigned.takeWhile Char.isDigit
  let behind := unsigned.dropWhile Char.isDigit
  let point := match behind with
    | '.' :: rest => rest.takeWhile Char.isDigit
    | _ => []
  let behind := match behind with
    | '.' :: rest => rest.dropWhile Char.isDigit
    | text => text
  let hasExponent := match behind with
    | [] => true
    | e :: rest =>
      let digits := match rest with
        | '+' :: digits => digits
        | '-' :: digits => digits
        | digits => digits
      (e == 'e' || e == 'E') && !digits.isEmpty && digits.all Char.isDigit
  word == "true" || word == "false" ||
    ["inf", "infinity", "nan"].contains (String.ofList (unsigned.map Char.toLower)) ||
    !(whole ++ point).isEmpty && hasExponent

/-- What is wrong with the text that the value of a field is given by. -/
def fault? (text : List Char) : Option Fault :=
  if isNumber text then none
  else match progress? (text.length + 1) {} text with
    | none => some .malformed
    | some p => if p.atWordEdge then some .wordEdge else none

end FieldPattern

end ModuleBundler.Log
