/-
# ModuleBundler.CommandLine.Command -- what a command takes

A command has options and at most one positional argument, which may take one
value or many. It may have subcommands, of which one has to be given.

Its usage line shows how it is called (`Command.usage`), and its help page what it and
its arguments are for (`Command.page`).
-/

namespace ModuleBundler.CommandLine

/-! ## Arguments -/

/-- What an argument does. -/
inductive Action where
  /-- Takes one value, once. -/
  | set
  /-- Takes one value each time. -/
  | append
  /-- Is given or not, at most once. -/
  | flag
  /-- Counts how often it is given. -/
  | count
  | help
  | version
  deriving DecidableEq, Repr

/-- Whether an argument is followed by a value. -/
def Action.takesValue (a : Action) : Bool :=
  a == .set || a == .append

/-- Which values an argument accepts. -/
inductive Accepted where
  | any
  | nonEmpty
  | oneOf (choices : List String)
  deriving DecidableEq, Repr

namespace Accepted

/-- Whether a value is accepted. -/
def takes : Accepted → String → Bool
  | any, _ => true
  | nonEmpty, value => value ≠ ""
  | oneOf choices, value => choices.contains value

/-- The values to choose from, if there is a choice. -/
def choices : Accepted → List String
  | oneOf choices => choices
  | _ => []

end Accepted

/-- An argument of a command. -/
structure Argument where
  id : String
  action : Action
  short : Option Char := none
  long : Option String := none
  /-- What stands for its value. -/
  valueName : String := ""
  about : String := ""
  accepted : Accepted := .any
  deriving DecidableEq, Repr

/-- An option as it is written, with what stands for its value. -/
def Argument.shown (a : Argument) : String :=
  let name := match a.long, a.short with
    | some long, _ => "--" ++ long
    | none, some letter => "-" ++ letter.toString
    | none, none => ""
  let behind := if a.action.takesValue then " <" ++ a.valueName ++ ">"
    else if a.action == .count then "..." else ""
  name ++ behind

/-- A positional argument. -/
structure Positional where
  argument : Argument
  /-- Whether it takes any number of values; if not, it takes exactly one. -/
  many : Bool
  deriving DecidableEq, Repr

/-- A positional argument as it is written, where it has to be given or not. -/
def Positional.shown (p : Positional) (required : Bool) : String :=
  let name := p.argument.valueName
  (if required then "<" ++ name ++ ">" else "[" ++ name ++ "]") ++ if p.many then "..." else ""

/-! ## Commands -/

/-- A command: its options, its positional argument and its subcommands. -/
structure Command where
  /-- The words that call it. -/
  name : String
  about : String
  options : List Argument
  positional : Option Positional := none
  /-- The names of its subcommands, and what they are for. -/
  subcommands : List (String × String) := []
  /-- Two options that may not be given together. -/
  conflicts : List (String × String) := []
  deriving DecidableEq, Repr

namespace Command

/-- The names of the subcommands. -/
def subcommandNames (c : Command) : List String :=
  c.subcommands.map Prod.fst

/-- The long names of the options. -/
def longNames (c : Command) : List String :=
  c.options.filterMap Argument.long

/-- A positional argument or an option, by its name for the program. -/
def argumentShown? (c : Command) (id : String) : Option String :=
  (c.options.find? fun a => a.id == id).map Argument.shown

/-- Whether there are options beside those that ask for help. -/
def hasOptions (c : Command) : Bool :=
  c.options.any fun a => a.action != .help && a.action != .version

/-- The line that shows how the command is called: with the options that were used, or
with a place for options where none was. -/
def usage (c : Command) (used : List String) : String :=
  let options :=
    if used.isEmpty then (if c.hasOptions then ["[OPTIONS]"] else [])
    else used.filterMap c.argumentShown?
  let positional := c.positional.toList.map fun p =>
    p.shown (!p.many || used.contains p.argument.id)
  let subcommand := if c.subcommands.isEmpty then [] else ["<COMMAND>"]
  "Usage: " ++ " ".intercalate ([c.name] ++ options ++ positional ++ subcommand)

/-- Rows of two columns under a heading; nothing if there are no rows. -/
def table (heading : String) (rows : List (String × String)) : String :=
  let width := rows.foldl (fun width row => max width row.1.length) 0
  if rows.isEmpty then ""
  else "\n" ++ heading ++ ":\n" ++ String.join (rows.map fun row =>
    "  " ++ row.1 ++ "".pushn ' ' (width + 2 - row.1.length) ++ row.2 ++ "\n")

/-- An argument's purpose, with the values to choose from. -/
def purpose (a : Argument) : String :=
  match a.accepted.choices with
  | [] => a.about
  | choices => "[possible values: " ++ ", ".intercalate choices ++ "]"

/-- The page that tells what a command and its arguments are for. -/
def page (c : Command) : String :=
  let options := c.options.map fun a =>
    ((match a.short with
      | some letter => "-" ++ letter.toString ++ ", "
      | none => "    ") ++ a.shown, purpose a)
  let positional := c.positional.toList.map fun p => (p.shown (!p.many), purpose p.argument)
  c.about ++ "\n\n" ++ c.usage [] ++ "\n" ++ table "Commands" c.subcommands ++
    table "Arguments" positional ++ table "Options" options

end Command

end ModuleBundler.CommandLine
