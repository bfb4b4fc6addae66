/-
# ModuleBundler.CommandLine.Grammar -- reading command lines

The first word that is a subcommand hands the rest of the line over. Options start
with `--` and their name, or with `-` and a letter; several letters may stand
together. A value follows behind `=`, or directly behind the letter, or as the next
word. Behind `--`, every word is a positional value.

The values of an option are stored once the next argument begins, so that of two
faults in a line the one that is met first is reported.
-/

import ModuleBundler.CommandLine.UsageError

namespace ModuleBundler.CommandLine

/-! ## The state of reading -/

/-- What was read of a command line. -/
structure State where
  /-- The values stored so far, under the argument they belong to. -/
  values : List (String × String) := []
  /-- An argument whose values are not stored yet. -/
  pending : Option (Argument × List String) := none
  /-- Whether the next word is the value of the pending option. -/
  awaiting : Bool := false
  /-- Whether the word read last belongs to a positional argument with many values. -/
  inPositional : Bool := false
  /-- Whether `--` was read. -/
  trailing : Bool := false
  /-- Whether the positional argument has its one value. -/
  filled : Bool := false

namespace State

/-- The values of an argument. -/
def valuesOf (s : State) (id : String) : List String :=
  (s.values.filter fun entry => entry.1 == id).map Prod.snd

/-- Whether an argument was given. -/
def has (s : State) (id : String) : Bool :=
  s.values.any fun entry => entry.1 == id

/-- The arguments that were given, in order; one that is counted stands where it was
given last. -/
def used (s : State) : List String :=
  (s.values.map Prod.fst).eraseDups

/-- The error of a value that an argument does not accept, if there is one. -/
def valueFault? (a : Argument) (shown : String) (values : List String) : Option UsageError :=
  if values.isEmpty then some (.ofValue shown "" a.accepted.choices)
  else (values.find? fun value => !a.accepted.takes value).map fun value =>
    .ofValue shown value a.accepted.choices

/-- Stores values under an argument of a command. -/
def store (c : Command) (s : State) (a : Argument) (values : List String) :
    Except UsageError State :=
  let stored : State := { s with values := s.values ++ values.map fun v => (a.id, v) }
  let shown := match c.positional with
    | some p => if p.argument.id = a.id then p.shown (!p.many) else a.shown
    | none => a.shown
  match a.action with
  | .help => .error ⟨.help c.page, [], none⟩
  | .version => .error ⟨.version (c.name ++ " " ++ a.valueName ++ "\n"), [], none⟩
  | .set =>
    if values.isEmpty then .error (.ofValue shown "" a.accepted.choices)
    else if s.has a.id then .error (.within c [] (.repeated shown))
    else match valueFault? a shown values with
      | some e => .error e
      | none => .ok stored
  | .append =>
    match valueFault? a shown values with
    | some e => .error e
    | none => .ok stored
  | .flag =>
    if s.has a.id then .error (.within c [] (.repeated shown))
    else .ok { s with values := s.values ++ [(a.id, "")] }
  | .count =>
    let (own, others) := s.values.partition fun entry => entry.1 == a.id
    .ok { s with values := others ++ own ++ [(a.id, "")] }

/-- Stores the values of the pending argument. -/
def settle (c : Command) (s : State) : Except UsageError State :=
  match s.pending with
  | none => .ok s
  | some (a, values) => store c { s with pending := none } a values

/-- What was read, with the values that are pending as far as they can be stored. -/
def settled (c : Command) (s : State) : State :=
  match s.settle c with
  | .ok s => s
  | .error _ => s

/-- Stores values directly, behind those that are pending. -/
def react (c : Command) (s : State) (a : Argument) (values : List String) :
    Except UsageError State := do
  let s ← s.settle c
  let s ← s.store c a values
  return { s with awaiting := false, inPositional := false }

/-- Reads the value of an option: the one attached to it, or the next word. -/
def option (c : Command) (s : State) (a : Argument) (attached : Option String) :
    Except UsageError State :=
  match attached with
  | some value => s.react c a [value]
  | none => do
    let s ← s.settle c
    return { s with pending := some (a, []), awaiting := true, inPositional := false }

end State

/-! ## Words -/

/-- The tip on how a word that looks like an option becomes a value. -/
def asValueTip (c : Command) (word : String) : List String :=
  if c.positional.isSome then ["to pass '" ++ word ++ "' as a value, use '-- " ++ word ++ "'"] else []

/-- The error of an option that a command does not have: it may mean a similar one of
the command, or one of a subcommand that is named behind it. -/
def unknownOption (c : Command) (subcommands : List Command) (s : State) (name : String)
    (behind : List String) : UsageError :=
  let used := (s.settled c).used
  let fault := UsageFault.unknownArgument ("--" ++ name)
  match (Text.closeTo name c.longNames).getLast? with
  | some close =>
    let meant := (c.options.find? fun a => a.long == some close).map Argument.id
    .within c ((used ++ meant.toList).eraseDups) fault
      (UsageError.similarTip "argument" ["--" ++ close])
  | none =>
    let elsewhere := subcommands.filterMap fun sub => do
      let close ← (Text.closeTo name sub.longNames).getLast?
      let word ← (sub.name.splitOn " ").getLast?
      let place ← behind.findIdx? (· == word)
      return (place, "'" ++ word ++ " --" ++ close ++ "' exists")
    let nearest := elsewhere.foldl (fun (best : Option (Nat × String)) found =>
      match best with
      | some b => if found.1 < b.1 then some found else some b
      | none => some found) none
    match nearest with
    | some (_, tip) => .within c used fault [tip]
    | none => .within c used fault (asValueTip c ("--" ++ name))

/-- Reads an option given by its name. The words behind it are given for the tips. -/
def readLong (c : Command) (subcommands : List Command) (s : State) (text : List Char)
    (behind : List String) : Except UsageError State :=
  let name := String.ofList (text.takeWhile (· ≠ '='))
  let attached := match text.dropWhile (· ≠ '=') with
    | [] => none
    | _ :: value => some (String.ofList value)
  match c.options.find? fun a => a.long == some name with
  | none => .error (unknownOption c subcommands s name behind)
  | some a =>
    if a.action.takesValue then s.option c a attached
    else match attached with
      | some value =>
        .error (.within c ((s.used ++ [a.id]).eraseDups) (.excessValue a.shown value))
      | none => s.react c a []

/-- Reads options given by letters. -/
def readShorts (c : Command) (s : State) : List Char → Except UsageError State
  | [] => .ok s
  | letter :: rest =>
    match c.options.find? fun a => a.short == some letter with
    | none =>
      let word := "-" ++ letter.toString
      .error (.within c [] (.unknownArgument word) (asValueTip c word))
    | some a =>
      if a.action.takesValue then
        match rest with
        | [] => s.option c a none
        | '=' :: value => s.option c a (some (String.ofList value))
        | value => s.option c a (some (String.ofList value))
      else
        match s.react c a [] with
        | .ok s => readShorts c s rest
        | .error e => .error e

/-- The error of a word that has no place in a command. -/
def misplaced (c : Command) (s : State) (word : String) : UsageError :=
  if s.trailing && c.subcommandNames.contains word then
    .within c [] (.unknownArgument word)
      ["subcommand '" ++ word ++ "' exists; to use it, remove the '--' before it"]
  else if c.subcommands.isEmpty then .within c [] (.unknownArgument word)
  else .within c [] (.unknownSubcommand word)
    (UsageError.similarTip "subcommand" (Text.closeTo word c.subcommandNames))

/-- Reads a positional value. -/
def readPositional (c : Command) (s : State) (word : String) : Except UsageError State :=
  match c.positional with
  | none => .error (misplaced c s word)
  | some p =>
    if s.filled then .error (misplaced c s word)
    else do
      let pending := match s.pending with
        | some (a, values) => if a.id = p.argument.id && p.many then some values else none
        | none => none
      match pending with
      | some values =>
        return { s with pending := some (p.argument, values ++ [word]), inPositional := p.many }
      | none =>
        let s ← s.settle c
        return { s with
          pending := some (p.argument, [word])
          inPositional := p.many
          awaiting := false
          filled := !p.many }

/-- Reads one word that is no option. -/
def readPlain (c : Command) (s : State) (word : String) : Except UsageError State :=
  if s.awaiting then
    match s.pending with
    | some (a, values) => .ok { s with pending := some (a, values ++ [word]), awaiting := false }
    | none => .ok s
  else readPositional c s word

/-- Reads one word that is no subcommand. A single dash is no option. -/
def readWord (c : Command) (subcommands : List Command) (s : State) (word : String)
    (behind : List String) : Except UsageError State :=
  if s.trailing then readPositional c s word
  else match word.toList with
    | ['-', '-'] => .ok { s with trailing := true }
    | '-' :: '-' :: text => readLong c subcommands s text behind
    | '-' :: letter :: rest => readShorts c s (letter :: rest)
    | _ => readPlain c s word

/-- Reads words up to a subcommand: what was read, the subcommand and the words
behind it. -/
def readWords (c : Command) (subcommands : List Command) (s : State) :
    List String → Except UsageError (State × Option (String × List String))
  | [] => .ok (s, none)
  | word :: rest =>
    if !s.trailing && !s.awaiting && !s.inPositional && c.subcommandNames.contains word then
      .ok (s, some (word, rest))
    else match readWord c subcommands s word rest with
      | .ok s => readWords c subcommands s rest
      | .error e => .error e

/-- The two options of a conflict, the one that was given first in front. -/
def conflict? (c : Command) (s : State) : Option (String × String) :=
  s.used.findSome? fun id =>
    c.conflicts.findSome? fun pair =>
      if pair.1 = id && s.has pair.2 then some (id, pair.2)
      else if pair.2 = id && s.has pair.1 then some (id, pair.1)
      else none

/-- Checks a command once its words, and those of its subcommand, were read. -/
def conclude (c : Command) (s : State) (hasSubcommand : Bool) : Except UsageError State := do
  let s ← s.settle c
  if !hasSubcommand && !c.subcommands.isEmpty then
    if s.values.isEmpty then .error ⟨.nothingGiven c.page, [], none⟩
    .error (.within c [] (.missingSubcommand c.name c.subcommandNames))
  match conflict? c s with
  | some (id, other) =>
    let shown (id : String) : String := (c.argumentShown? id).getD id
    .error (.within c (s.used.filter (· ≠ other)) (.conflict (shown id) (shown other)))
  | none =>
    match c.positional with
    | some p =>
      if !p.many && !s.has p.argument.id then
        .error (.within c (s.used ++ [p.argument.id]) (.missingArgument (p.shown true)))
      else .ok s
    | none => .ok s

end ModuleBundler.CommandLine
