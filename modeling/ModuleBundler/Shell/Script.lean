/-
# ModuleBundler.Shell.Script -- the grammar of commands

A script is read one whole command at a time, up to the end of its line, so that
what stands in front of a mistake can run. Keywords count only where a command may
begin. The numbers in this module bound the depth of the reading; a script's length
gives one that suffices.
-/

import ModuleBundler.Shell.Source

namespace ModuleBundler.Shell.Reading

/-- Where a row of commands stands. -/
inductive Row where
  /-- On a line of its own, where it ends. -/
  | line
  /-- Within another command: it holds at least one command, and may go on over
  several lines. -/
  | inner
  /-- Within another command, and may be empty. -/
  | optional
  deriving DecidableEq, Repr

/-- Whether a row of commands may end in front of a token. -/
def endsRow (t : Token) : Bool :=
  match t with
  | .ending => true
  | .sign s => s == ")" || s == ";;"
  | t =>
    match t.keyword? with
    | some keyword => ["do", "done", "elif", "else", "esac", "fi", "then", "\x7d"].contains keyword
    | none => false

/-- Asks for the keyword, which must be the next token. -/
def expectKeyword (t : Token) (keyword : String) : Reading Unit :=
  if t.keyword? = some keyword then return else unexpected t (some ("\"" ++ keyword ++ "\""))

/-- Asks for a word, which must be the next token. -/
def expectWord (t : Token) : Reading Word :=
  match t with
  | .word parts => return parts
  | t => unexpected t none

/-- The parts that stand for a text in a redirection's name, without quotes. -/
def textOf (parts : Word) : List Char :=
  parts.flatMap fun part =>
    match part with
    | .text text _ => text
    | _ => []

/-- Whether any part of a word is quoted. -/
def isQuoted (parts : Word) : Bool :=
  parts.any fun part =>
    match part with
    | .text _ quoted => quoted
    | _ => false

/-- Reads what a redirection names behind its sign. -/
def binding (inner : Reading Command) (sign : String) : Reading Binding := do
  if sign = "<<" || sign = "<<-" then do
    let parts ← expectWord (← tokenWith inner true false)
    let number := (← get).asked
    modify fun s => { s with
      asked := number + 1
      awaited := s.awaited ++ [⟨number, textOf parts, sign == "<<-", isQuoted parts⟩] }
    return .document number
  else do
    let parts ← expectWord (← token inner)
    if sign = "<" then return .input parts
    else if sign = ">" then return .output parts false
    else if sign = ">|" then return .output parts true
    else if sign = ">>" then return .append parts
    else if sign = "<>" then return .inputOutput parts
    else return .descriptor parts

/-- Reads the redirections behind a command. -/
def redirections (inner : Reading Command) : Nat → Reading (List Redirection)
  | 0 => return []
  | n + 1 => do
    match ← token inner with
    | .redirection descriptor sign => do
      let b ← binding inner sign
      return .mk descriptor b :: (← redirections inner n)
    | t => do
      giveBack t
      return []

/-- Reads the words of a repetition, up to the end of its line. -/
def wordsOfLine (inner : Reading Command) : Nat → Reading (List Word)
  | 0 => return []
  | n + 1 => do
    match ← token inner with
    | .word parts => return parts :: (← wordsOfLine inner n)
    | .newline => do
      documents inner
      return []
    | .sign ";" => return []
    | t => unexpected t none

/-- Reads the patterns of a branch up to the parenthesis behind them, given the
token that stands for the first one. -/
def patterns (inner : Reading Command) : Nat → Token → Reading (List Word)
  | 0, t => unexpected t none
  | n + 1, t => do
    let first := match t with
      | .word parts => some parts
      | _ => none
    match ← token inner with
    | .sign ")" => return first.toList
    | .sign "|" => return first.toList ++ (← patterns inner n (← token inner))
    | t => unexpected t (some "\")\"")

mutual

/-- Reads a row of commands. -/
def row : Nat → Row → List Command → Reading Command
  | 0, _, _ => fail "out of depth"
  | n + 1, place, done => do
    let inner := row n .optional []
    let t ← if place = .line then firstToken inner else firstTokenBehindLines inner
    let soFar := Command.inOrder done.reverse
    match t with
    | .newline => do
      documents inner
      return soFar
    | .ending => do
      documents inner
      giveBack t
      return soFar
    | t =>
      giveBack t
      if endsRow t && place ≠ .line && (place = .optional || !done.isEmpty) then return soFar
      else do
        let command ← chain n
        match ← token inner with
        | .sign "&" => row n place (.background command :: done)
        | .sign ";" => row n place (command :: done)
        | .newline => do
          giveBack .newline
          row n place (command :: done)
        | t =>
          match t with
          | .ending => do
            documents inner
            giveBack t
            return .inOrder (command :: done).reverse
          | t =>
            if place = .line then unexpected t none
            else do
              giveBack t
              return .inOrder (command :: done).reverse

/-- Reads pipelines that are joined by what they end with. -/
def chain : Nat → Reading Command
  | 0 => fail "out of depth"
  | n + 1 => do
    chainFrom n (← pipeline n)

/-- Reads the pipelines that are joined to a command. -/
def chainFrom : Nat → Command → Reading Command
  | 0, _ => fail "out of depth"
  | n + 1, first => do
    let inner := row n .optional []
    match ← token inner with
    | .sign "&&" => do
      giveBack (← firstTokenBehindLines inner)
      chainFrom n (.both first (← pipeline n))
    | .sign "||" => do
      giveBack (← firstTokenBehindLines inner)
      chainFrom n (.either first (← pipeline n))
    | t => do
      giveBack t
      return first

/-- Reads commands that feed one another. -/
def pipeline : Nat → Reading Command
  | 0 => fail "out of depth"
  | n + 1 => do
    let t ← firstToken (row n .optional [])
    if t.keyword? = some "!" then return .negation (← fed n)
    else do
      giveBack t
      fed n

/-- Reads a command, and those that it feeds. -/
def fed : Nat → Reading Command
  | 0 => fail "out of depth"
  | n + 1 => do
    let first ← command n
    match ← fedBy n with
    | [] => return first
    | rest => return .pipeline (first :: rest)

/-- Reads the commands that are fed by the one in front of them. -/
def fedBy : Nat → Reading (List Command)
  | 0 => fail "out of depth"
  | n + 1 => do
    let inner := row n .optional []
    match ← token inner with
    | .sign "|" => do
      giveBack (← firstTokenBehindLines inner)
      let next ← command n
      return next :: (← fedBy n)
    | t => do
      giveBack t
      return []

/-- Reads a command without signs that join it to others. -/
def command : Nat → Reading Command
  | 0 => fail "out of depth"
  | n + 1 => do
    let inner := row n .optional []
    let t ← firstToken inner
    let line := (← get).line
    match t.keyword? with
    | some "if" => withRedirections n line (← conditional n)
    | some "while" => withRedirections n line (← loop n false)
    | some "until" => withRedirections n line (← loop n true)
    | some "for" => withRedirections n line (← forEach n line)
    | some "case" => withRedirections n line (← choice n line)
    | some "\x7b" => do
      let body ← row n .inner []
      expectKeyword (← token inner) "\x7d"
      withRedirections n line body
    | some _ => unexpected t none
    | none =>
      match t with
      | .sign "(" => do
        let body ← row n .inner []
        match ← token inner with
        | .sign ")" => withRedirections n line (.subshell body)
        | t => unexpected t (some "\")\"")
      | .word _ => do
        giveBack t
        simple n line [] [] []
      | .redirection _ _ => do
        giveBack t
        simple n line [] [] []
      | t => unexpected t none

/-- Adds the redirections that stand behind a command. A group that is one subshell is
that subshell: they stand in place of its own. -/
def withRedirections : Nat → Nat → Command → Reading Command
  | 0, _, _ => fail "out of depth"
  | n + 1, line, body => do
    match ← redirections (row n .optional []) ((← size) + 1) with
    | [] => return body
    | rs => return .redirected line ((body.subshell?.map Command.subshell).getD body) rs

/-- Reads a condition behind its first keyword, up to its last. -/
def conditional : Nat → Reading Command
  | 0 => fail "out of depth"
  | n + 1 => do
    let inner := row n .optional []
    let test ← row n .inner []
    expectKeyword (← token inner) "then"
    let yes ← row n .inner []
    let t ← token inner
    match t.keyword? with
    | some "elif" => return .conditional test yes (← conditional n)
    | some "else" => do
      let no ← row n .inner []
      expectKeyword (← token inner) "fi"
      return .conditional test yes no
    | _ => do
      expectKeyword t "fi"
      return .conditional test yes .nothing

/-- Reads a loop behind its first keyword. -/
def loop : Nat → Bool → Reading Command
  | 0, _ => fail "out of depth"
  | n + 1, until_ => do
    let inner := row n .optional []
    let test ← row n .inner []
    expectKeyword (← token inner) "do"
    let body ← row n .inner []
    expectKeyword (← token inner) "done"
    return .loop until_ test body

/-- Reads a repetition over words behind its first keyword. -/
def forEach : Nat → Nat → Reading Command
  | 0, _ => fail "out of depth"
  | n + 1, line => do
    let inner := row n .optional []
    match (← token inner).plain? with
    | none => fail "Bad for loop variable"
    | some name =>
      if !isName name then fail "Bad for loop variable"
      else do
        let t ← firstTokenBehindLines inner
        let words ←
          if t.keyword? = some "in" then some <$> wordsOfLine inner ((← size) + 1)
          else do
            match t with
            | .sign ";" => pure ()
            | t => giveBack t
            pure none
        expectKeyword (← firstTokenBehindLines inner) "do"
        let body ← row n .inner []
        expectKeyword (← token inner) "done"
        return .forEach line (String.ofList name) words body

/-- Reads a choice by patterns behind its first keyword. -/
def choice : Nat → Nat → Reading Command
  | 0, _ => fail "out of depth"
  | n + 1, line => do
    let inner := row n .optional []
    let t ← token inner
    match t with
    | .word subject => do
      expectKeyword (← firstTokenBehindLines inner) "in"
      return .choice line subject (← branches n)
    | t => unexpected t (some "word")

/-- Reads the branches of a choice, up to its last keyword. -/
def branches : Nat → Reading (List Branch)
  | 0 => fail "out of depth"
  | n + 1 => do
    let inner := row n .optional []
    let t ← tokenBehindLines inner false (← size)
    if t.keyword? = some "esac" then return []
    else do
      let first ← match t with
        | .sign "(" => token inner
        | t => pure t
      let ps ← patterns inner ((← size) + 1) first
      let body ← row n .optional []
      let t ← tokenBehindLines inner false (← size)
      if t.keyword? = some "esac" then return [.mk ps body]
      else match t with
        | .sign ";;" => return .mk ps body :: (← branches n)
        | t => unexpected t (some "\";;\"")

/-- Reads the words of a simple command, with what sets variables in front of them
and redirections anywhere; or the definition of a function. Those read come last
one first. -/
def simple : Nat → Nat → List (String × Word) → List Word → List Redirection → Reading Command
  | 0, _, _, _, _ => fail "out of depth"
  | n + 1, line, settings, words, rs => do
    let inner := row n .optional []
    match ← if words.isEmpty then firstToken inner else token inner with
    | .word parts =>
      match words, parts with
      | [], .text text false :: rest =>
        match setting? text with
        | some (name, value) =>
          let value := if value.isEmpty then rest else .text value false :: rest
          simple n line ((name, value) :: settings) words rs
        | none => simple n line settings [parts] rs
      | words, parts => simple n line settings (parts :: words) rs
    | .redirection descriptor sign => do
      let b ← binding inner sign
      simple n line settings words (.mk descriptor b :: rs)
    | t =>
      match t, words, settings, rs with
      | .sign "(", [name], [], [] => do
        match ← token inner with
        | .sign ")" =>
          match name with
          | [.text name false] =>
            if !isName name || specialBuiltins.contains (String.ofList name) then
              fail "Bad function name"
            else do
              giveBack (← firstTokenBehindLines inner)
              return .function (String.ofList name) (← get).line (← command n)
          | _ => fail "Bad function name"
        | t => unexpected t (some "\")\"")
      | t, words, settings, rs => do
        giveBack t
        return .simple line settings.reverse words.reverse rs.reverse

end

/-- Reads the next whole command of a script; none at its end. -/
def nextLine : Reading (Option Line) := do
  let depth := 8 * (← expansionBound) * ((← get).aliases.length + 1) + 64
  modify fun s => { s with documents := [], asked := 0 }
  match ← firstToken (row depth .optional []) with
  | .ending => return none
  | t => do
    giveBack t
    let command ← row depth .line []
    return some ⟨command, (← get).documents⟩

end ModuleBundler.Shell.Reading
