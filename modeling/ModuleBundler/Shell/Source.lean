/-
# ModuleBundler.Shell.Source -- reading words and signs from a script

The text of a script is read from the front, token by token: words, the signs
between them, and line ends. A word is read with its quoting; what stands in
`$(...)` is a script of its own, so whoever reads tokens says how a script is read
there (`inner`).

A text that a redirection asks for with `<<` begins behind the line at hand. It is
awaited until that line ends.

Where a command may begin, a word may stand for a text, which is read in its place; the
word behind it may do so, too, if that text ends in a blank.
-/

import ModuleBundler.Shell.Command
import ModuleBundler.Text.Search

namespace ModuleBundler.Shell

/-- Why a script cannot be read. -/
structure SyntaxError where
  line : Nat
  message : String
  deriving DecidableEq, Repr

/-- A token of a script. -/
inductive Token where
  | word (parts : Word)
  | sign (sign : String)
  /-- The sign of a redirection, and the descriptor that it is for. -/
  | redirection (descriptor : Nat) (sign : String)
  | newline
  | ending

namespace Token

/-- The words that have a meaning of their own where a command may begin. -/
def keywords : List String :=
  ["!", "case", "do", "done", "elif", "else", "esac", "fi", "for", "if", "in", "then", "until",
    "while", "\x7b", "\x7d"]

/-- The keyword that a token is, where keywords count. -/
def keyword? : Token → Option String
  | word [.text text false] => keywords.find? (· == String.ofList text)
  | _ => none

/-- The text of a word that is plain text without quotes. -/
def plain? : Token → Option (List Char)
  | word [.text text false] => some text
  | _ => none

/-- A token in messages. -/
def describe (t : Token) : String :=
  match t with
  | word _ =>
    match t.keyword? with
    | some keyword => "\"" ++ keyword ++ "\""
    | none => "word"
  | sign s => "\"" ++ s ++ "\""
  | redirection _ _ => "redirection"
  | newline => "newline"
  | ending => "end of file"

end Token

/-- A text that a redirection asks for. -/
structure Awaited where
  number : Nat
  /-- The line that ends the text. -/
  delimiter : List Char
  /-- Whether tabs in front of lines do not count. -/
  withoutTabs : Bool
  /-- Whether the text stands for itself. -/
  quoted : Bool

/-- A text that is read in place of a word. -/
structure Expansion where
  name : String
  /-- How much of the script is left behind the text. -/
  remaining : Nat
  /-- Whether it ends in a blank. -/
  endsInBlank : Bool

/-- What is left of a script. -/
structure Source where
  rest : List Char
  line : Nat := 1
  /-- The words that stand for texts where a command may begin. -/
  aliases : List (String × String) := []
  /-- The texts that are read in place of words, and not yet to their ends. -/
  expansions : List Expansion := []
  /-- A token that was read, and given back. -/
  ahead : Option Token := none
  awaited : List Awaited := []
  documents : List (Nat × Word) := []
  /-- How many texts were asked for. -/
  asked : Nat := 0

/-- Reads something from the front of a script. -/
abbrev Reading := StateT Source (Except SyntaxError)

namespace Reading

/-- Refuses the script. -/
def fail {α : Type} (message : String) : Reading α := do
  throw ⟨(← get).line, message⟩

/-- Drops line ends behind a backslash. The number bounds them. -/
def joined : Nat → List Char → List Char
  | n + 1, '\\' :: '\n' :: rest => joined n rest
  | _, text => text

/-- The next character, which stays; line ends behind a backslash are passed over. -/
def peek : Reading (Option Char) := do
  let s ← get
  let rest := joined s.rest.length s.rest
  let lines := (s.rest.length - rest.length) / 2
  set { s with rest := rest, line := s.line + lines }
  return rest.head?

/-- Takes the next character as it is. -/
def take : Reading (Option Char) := do
  let s ← get
  match s.rest with
  | [] => return none
  | c :: rest =>
    set { s with rest := rest, line := if c = '\n' then s.line + 1 else s.line }
    return some c

/-- Takes characters while they are of a kind. -/
def takeWhile (kind : Char → Bool) : Nat → Reading (List Char)
  | 0 => return []
  | n + 1 => do
    match ← peek with
    | some c =>
      if kind c then
        let _ ← take
        return c :: (← takeWhile kind n)
      else return []
    | none => return []

/-- Takes a character if it is the next one. -/
def takeIf (c : Char) : Reading Bool := do
  if (← peek) = some c then
    let _ ← take
    return true
  else return false

/-- The number of characters that are left. -/
def size : Reading Nat :=
  return (← get).rest.length

end Reading

/-! ## Words -/

/-- What encloses the parts of a word that are read. -/
inductive Enclosure where
  /-- Nothing; in a bare word a dollar sign stands for itself. -/
  | word (bare : Bool)
  | quotes
  /-- The braces of a parameter, within quotes or not. -/
  | braces (quoted : Bool)
  /-- The parentheses of an expression, and those that are open in it. -/
  | sum (depth : Nat)
  /-- The text of a redirection. -/
  | document
  deriving DecidableEq, Repr

namespace Enclosure

/-- Whether text in it is quoted. -/
def quotes? : Enclosure → Bool
  | word _ => false
  | braces quoted => quoted
  | _ => true

/-- Whether a backslash quotes a character in it, where text is quoted. -/
def escapes (enclosure : Enclosure) (c : Char) : Bool :=
  ['\\', '\x60', '$'].contains c || c == '"' && enclosure != .document ||
    c == '\x7d' && enclosure == .braces true

end Enclosure

/-- Whether a character ends a word outside of quotes. -/
def endsWord (c : Char) : Bool :=
  [' ', '\t', '\n', ';', '&', '|', '<', '>', '(', ')'].contains c

/-- Whether a character is the name of a parameter of its own. -/
def isSpecial (c : Char) : Bool :=
  ['@', '*', '#', '?', '-', '$', '!'].contains c

/-- Adds a character to parts, which come last one first. -/
def addChar (parts : Word) (c : Char) (quoted : Bool) : Word :=
  match parts with
  | .text text q :: rest => if q = quoted then .text (text ++ [c]) q :: rest
      else .text [c] quoted :: parts
  | parts => .text [c] quoted :: parts

namespace Reading

/-- The text up to the next single quote. -/
def singleQuoted : Nat → Reading (List Char)
  | 0 => fail "Unterminated quoted string"
  | n + 1 => do
    match ← take with
    | none => fail "Unterminated quoted string"
    | some c => if c = '\'' then return [] else return c :: (← singleQuoted n)

/-- The text up to the next back quote, without the backslashes that quote in it. -/
def backQuoted (quoted : Bool) : Nat → Reading (List Char)
  | 0 => fail "EOF in backquote substitution"
  | n + 1 => do
    let _ ← peek
    match ← take with
    | none => fail "EOF in backquote substitution"
    | some '\x60' => return []
    | some '\\' =>
      match ← take with
      | none => fail "EOF in backquote substitution"
      | some c =>
        let more ← backQuoted quoted n
        if ['\\', '\x60', '$'].contains c || quoted && c == '"' then return c :: more
        else return '\\' :: c :: more
    | some c => return c :: (← backQuoted quoted n)

/-- Reads a text of its own, whose lines are counted from a number, and goes on behind
where it was taken from. -/
def withText {α : Type} (line : Nat) (text : List Char) (read : Reading α) : Reading α := do
  let before ← get
  set { before with rest := text, ahead := none, line := line, expansions := [] }
  let a ← read
  modify fun s => { s with
    rest := before.rest
    ahead := before.ahead
    line := before.line
    expansions := before.expansions }
  return a

/-- Reads a script within a word. Texts that it asks for and does not hold are empty. -/
def alone (inner : Reading Command) : Reading Command := do
  let before ← get
  set { before with awaited := [] }
  let command ← inner
  modify fun s => { s with
    awaited := before.awaited
    documents := s.documents ++ s.awaited.map fun a => (a.number, []) }
  return command

/-- Refuses a token, where another one was expected or any other. -/
def unexpected {α : Type} (t : Token) (expected : Option String) : Reading α :=
  fail (t.describe ++ " unexpected" ++
    match expected with
    | some what => " (expecting " ++ what ++ ")"
    | none => "")

/-- Reads a script in parentheses, up to the one that closes. -/
def parenthesized (inner : Reading Command) : Reading Command := do
  let command ← alone inner
  let t := (← get).ahead.getD .ending
  modify fun s => { s with ahead := none }
  match t with
  | .sign ")" => return command
  | t => unexpected t (some "\")\"")

/-- The name of a parameter in braces and, for the length of its value, that. -/
def bracedName : Reading (Option (String × Bool)) := do
  let n ← size
  match ← peek with
  | none => return none
  | some c =>
    if isNameStart c then return some (String.ofList (← takeWhile isNameChar n), false)
    else if c.isDigit then return some (String.ofList (← takeWhile Char.isDigit n), false)
    else if c = '#' then do
      let _ ← take
      match ← peek with
      | none => return some ("#", false)
      | some d =>
        if isNameChar d then
          let kind := if d.isDigit then Char.isDigit else isNameChar
          return some (String.ofList (← takeWhile kind n), true)
        else do
          let s ← get
          let _ ← take
          if isSpecial d && (← peek) = some '\x7d' then return some (d.toString, true)
          else do
            set s
            return some ("#", false)
    else if isSpecial c then do
      let _ ← take
      return some (c.toString, false)
    else return none

/-! ## Parts of a word -/

/-- The parts that were read, where the text ends; some enclosures have to be closed first. -/
def atEnd (enclosure : Enclosure) (parts : Word) : Reading Word :=
  match enclosure with
  | .word _ => return parts.reverse
  | .document => return parts.reverse
  | .braces false => fail "Missing '\x7d'"
  | .sum _ => fail "Missing '))'"
  | _ => fail "Unterminated quoted string"

/-- Adds the character behind a backslash, and the backslash where it does not quote. -/
def escaped (enclosure : Enclosure) (parts : Word) : Reading Word := do
  match ← take with
  | none => return addChar parts '\\' true
  | some c =>
    let stays := enclosure.quotes? && !enclosure.escapes c
    return addChar (if stays then addChar parts '\\' true else parts) c true

section Enclosed

-- Reads the parts in an enclosure of their own, and what closes it.
variable (enclosed : Enclosure → Reading Word)

/-- The parts between double quotes; where there are none, the word is still there. -/
def doubleQuoted : Reading Word := do
  let within ← enclosed .quotes
  return if within.isEmpty then [.text [] true] else within

/-- What is done with a parameter, behind its name in braces. A word behind a sign that is
not known is passed over. -/
def bracedUse (name : String) (quoted : Bool) : Reading Part := do
  let part (use : Use) : Part := .parameter name use quoted
  let word (quoted : Bool) : Reading Word := enclosed (.braces quoted)
  let unknown : Reading Part := do
    let _ ← word quoted
    return part .unknown
  let colon ← takeIf ':'
  if ← takeIf '-' then return part (.orElse colon (← word quoted))
  else if ← takeIf '=' then return part (.orSet colon (← word quoted))
  else if ← takeIf '?' then return part (.orFail colon (← word quoted))
  else if ← takeIf '+' then return part (.whenSet colon (← word quoted))
  else if colon then unknown
  else if ← takeIf '\x7d' then return part .value
  else if ← takeIf '%' then return part (.trimmed false (← takeIf '%') (← word false))
  else if ← takeIf '#' then return part (.trimmed true (← takeIf '#') (← word false))
  else unknown

/-- A parameter behind the brace that opens it. -/
def braced (quoted : Bool) : Reading Part := do
  match ← bracedName with
  | none => do
    let _ ← enclosed (.braces quoted)
    return .parameter "" .unknown quoted
  | some (name, true) =>
    if ← takeIf '\x7d' then return .parameter name .length quoted
    else do
      let _ ← enclosed (.braces quoted)
      return .parameter name .unknown quoted
  | some (name, false) => bracedUse enclosed name quoted

/-- The part that a dollar sign begins, which was taken; without one, it stands for itself. -/
def dollarPart? (inner : Reading Command) (n : Nat) (quoted : Bool) : Reading (Option Part) := do
  match ← peek with
  | none => return none
  | some c =>
    if c = '(' then do
      let _ ← take
      if ← takeIf '(' then return some (.arithmetic (← enclosed (.sum 0)) quoted)
      else return some (.output (← parenthesized inner) quoted)
    else if c = '\x7b' then do
      let _ ← take
      return some (← braced enclosed quoted)
    else if isNameStart c then
      return some (.parameter (String.ofList (← takeWhile isNameChar n)) .value quoted)
    else if c.isDigit || isSpecial c then do
      let _ ← take
      return some (.parameter c.toString .value quoted)
    else return none

end Enclosed

/-- What a character that begins no part of its own does in an enclosure: it ends it, or
stands for itself there. Gives the enclosure to go on in, if there is more to come. -/
def plainChar (enclosure : Enclosure) (c : Char) : Reading (Option Enclosure) :=
  match enclosure with
  | .word _ =>
    if endsWord c then return none
    else do
      let _ ← take
      return some enclosure
  | .braces _ => do
    let _ ← take
    return if c = '\x7d' then none else some enclosure
  | .sum depth => do
    let _ ← take
    if c = '(' then return some (.sum (depth + 1))
    else if c ≠ ')' then return some enclosure
    else if depth ≠ 0 then return some (.sum (depth - 1))
    else if ← takeIf ')' then return none
    else return some enclosure
  | _ => do
    let _ ← take
    return some enclosure

/-- Reads the parts of a word up to what ends them. `parts` holds those that were
read, last one first. The number bounds the characters. -/
def partsOf (inner : Reading Command) : Nat → Enclosure → Word → Reading Word
  | 0, _, _ => fail "Unterminated quoted string"
  | n + 1, enclosure, parts => do
    let quoted := enclosure.quotes?
    let goOn (parts : Word) := partsOf inner n enclosure parts
    let enclosed (enclosure : Enclosure) := partsOf inner n enclosure []
    match ← peek with
    | none => atEnd enclosure parts
    | some c =>
      if c = '\\' then do
        let _ ← take
        goOn (← escaped enclosure parts)
      else if c = '\'' && !quoted then do
        let _ ← take
        goOn (.text (← singleQuoted n) true :: parts)
      else if c = '"' && enclosure = .quotes then do
        let _ ← take
        return parts.reverse
      else if c = '"' && (!quoted || enclosure = .braces true) then do
        let _ ← take
        goOn ((← doubleQuoted enclosed).reverse ++ parts)
      else if c = '\x60' && enclosure ≠ .word true then do
        let _ ← take
        let command ← withText 1 (← backQuoted quoted n) (alone inner)
        goOn (.output command quoted :: parts)
      else if c = '$' && enclosure ≠ .word true then do
        let _ ← take
        match ← dollarPart? enclosed inner n quoted with
        | some part => goOn (part :: parts)
        | none => goOn (addChar parts '$' quoted)
      else match ← plainChar enclosure c with
        | some enclosure => partsOf inner n enclosure (addChar parts c quoted)
        | none => return parts.reverse

/-! ## Texts of redirections -/

/-- Splits lines in front of the one that ends a text, and behind it. A line end
behind a backslash does not count, if `joins` is set. -/
def upTo (ends : List Char → Bool) (joins : Bool) (behind : Bool) :
    List (List Char) → List (List Char) × Option (List (List Char))
  | [] => ([], none)
  | line :: rest =>
    if ends line && !behind then ([], some rest)
    else
      let slashes := (line.reverse.takeWhile (· == '\\')).length
      let (before, after) := upTo ends joins (joins && slashes % 2 == 1) rest
      (line :: before, after)

/-- Reads a text that a redirection asked for. -/
def document (inner : Reading Command) (a : Awaited) : Reading Unit := do
  let s ← get
  let strip (line : List Char) := if a.withoutTabs then line.dropWhile (· == '\t') else line
  let (lines, after) := upTo (strip · == a.delimiter) (!a.quoted) false (Text.splitOn '\n' s.rest)
  let body := Text.joinWith '\n' (lines.map strip)
  let body := if after.isSome && !lines.isEmpty then body ++ ['\n'] else body
  let parts ←
    if a.quoted then pure [.text body true]
    else withText s.line body (partsOf inner (body.length + 1) .document [])
  modify fun t => { t with
    rest := Text.joinWith '\n' (after.getD [])
    line := s.line + lines.length + (if after.isSome then 1 else 0)
    documents := t.documents ++ [(a.number, parts)] }

/-- Reads the texts that the line asked for which has just ended. -/
def documents (inner : Reading Command) : Reading Unit := do
  let awaited := (← get).awaited
  modify fun s => { s with awaited := [] }
  awaited.forM (document inner)

/-! ## Tokens -/

/-- Passes over blanks and a comment. -/
def blanks : Nat → Reading Unit
  | 0 => return
  | n + 1 => do
    match ← peek with
    | some ' ' => do
      let _ ← take
      blanks n
    | some '\t' => do
      let _ ← take
      blanks n
    | some '#' => modify fun s => { s with rest := s.rest.dropWhile (· ≠ '\n') }
    | _ => return

/-- The sign of a redirection behind its first character. -/
def redirectionSign (first : Char) : Reading String := do
  if first = '>' then
    if ← takeIf '>' then return ">>"
    else if ← takeIf '|' then return ">|"
    else if ← takeIf '&' then return ">&"
    else return ">"
  else if ← takeIf '<' then
    if ← takeIf '-' then return "<<-" else return "<<"
  else if ← takeIf '&' then return "<&"
  else if ← takeIf '>' then return "<>"
  else return "<"

/-- Reads a word, or the redirection of the descriptor that it would be. -/
def wordToken (inner : Reading Command) (bare : Bool) : Reading Token := do
  let parts ← partsOf inner ((← size) + 1) (.word bare) []
  let digit? := match parts with
    | [] => some none
    | [.text [c] false] => if c.isDigit then some (some (c.toNat - '0'.toNat)) else none
    | _ => none
  match digit?, (← get).rest with
  | some descriptor, c :: _ =>
    if c = '<' || c = '>' then do
      let _ ← take
      let sign ← redirectionSign c
      return .redirection (descriptor.getD (if c = '>' then 1 else 0)) sign
    else return .word parts
  | _, _ => return .word parts

/-- Reads a token behind blanks. In a bare word a dollar sign stands for itself. -/
def plainToken (inner : Reading Command) (bare : Bool) : Reading Token := do
  match ← peek with
  | none => return .ending
  | some c =>
    if c = '\n' then do
      let _ ← take
      return .newline
    else if c = '&' || c = '|' then do
      let _ ← take
      if ← takeIf c then return .sign (c.toString ++ c.toString) else return .sign c.toString
    else if c = ';' then do
      let _ ← take
      if ← takeIf ';' then return .sign ";;" else return .sign ";"
    else if c = '(' || c = ')' then do
      let _ ← take
      return .sign c.toString
    else wordToken inner bare

/-- Drops the texts in place of words that were read to their ends. Gives whether one of
them ended in a blank. -/
def endExpansions : Reading Bool := do
  let s ← get
  let left := s.rest.length
  set { s with expansions := s.expansions.filter fun e => e.remaining < left }
  return s.expansions.any fun e => left ≤ e.remaining && e.endsInBlank

/-- The text that a word stands for, unless that is being read. -/
def aliased? (s : Source) (t : Token) : Option (String × List Char) := do
  let name := String.ofList (← t.plain?)
  let entry ← s.aliases.find? fun entry => entry.1 == name
  if s.expansions.any fun e => e.name == name then none
  else return (name, entry.2.toList)

/-- Reads a token; `expands` tells whether a word may stand for a text. The number
bounds those texts. -/
def expandedToken (inner : Reading Command) (bare : Bool) : Nat → Bool → Reading Token
  | 0, _ => plainToken inner bare
  | n + 1, expands => do
    blanks ((← size) + 1)
    let expands := (← endExpansions) || expands
    let s ← get
    let t ← plainToken inner bare
    match if expands && t.keyword?.isNone then aliased? s t else none with
    | none => return t
    | some (name, text) => do
      modify fun s =>
        if text.isEmpty then s
        else
          let blank := text.getLast?.any fun c => c = ' ' || c = '\t'
          { s with
            rest := text ++ s.rest
            expansions := ⟨name, s.rest.length, blank⟩ :: s.expansions }
      expandedToken inner bare n true

/-- A number that is greater than that of the texts which can be read in place of words. -/
def expansionBound : Reading Nat := do
  let s ← get
  return s.aliases.foldl (fun n entry => n + entry.2.length + 1) s.rest.length + 1

/-- Reads a token, where words stand for texts or not. -/
def tokenWith (inner : Reading Command) (bare expands : Bool) : Reading Token := do
  match (← get).ahead with
  | some t => do
    modify fun s => { s with ahead := none }
    return t
  | none => expandedToken inner bare (← expansionBound) expands

/-- Reads a token. -/
def token (inner : Reading Command) : Reading Token := tokenWith inner false false

/-- Reads a token where a command may begin. -/
def firstToken (inner : Reading Command) : Reading Token := tokenWith inner false true

/-- Gives a token back. -/
def giveBack (t : Token) : Reading Unit :=
  modify fun s => { s with ahead := some t }

/-- Reads a token behind line ends. The number bounds them. -/
def tokenBehindLines (inner : Reading Command) (expands : Bool) : Nat → Reading Token
  | 0 => tokenWith inner false expands
  | n + 1 => do
    match ← tokenWith inner false expands with
    | .newline => do
      documents inner
      tokenBehindLines inner expands n
    | t => return t

/-- Reads a token where a command may begin, behind line ends. -/
def firstTokenBehindLines (inner : Reading Command) : Reading Token := do
  tokenBehindLines inner true (← size)

end Reading

end ModuleBundler.Shell
