/-
# ModuleBundler.CommandLine.UsageError -- why a command line cannot be run

A command line is refused for one fault, or it asks for a text instead of a run: a help
page or the version. The fault is told together with tips and with the usage line of
the command it was met in, as far as they help.
-/

import ModuleBundler.CommandLine.Command
import ModuleBundler.Text.Similarity

namespace ModuleBundler.CommandLine

/-- What is wrong with a command line. Arguments are given as they are written. -/
inductive UsageFault where
  /-- Nothing is: a help page is asked for. -/
  | help (page : String)
  /-- Nothing is: the version is asked for. -/
  | version (text : String)
  /-- There are no words where a subcommand is needed. -/
  | nothingGiven (page : String)
  | invalidValue (argument value : String) (choices : List String)
  | unknownArgument (argument : String)
  | unknownSubcommand (word : String)
  | excessValue (argument value : String)
  | repeated (argument : String)
  | conflict (argument other : String)
  | missingArgument (argument : String)
  | missingSubcommand (command : String) (subcommands : List String)
  deriving DecidableEq, Repr

namespace UsageFault

/-- The kind of the fault, as one word. -/
def word : UsageFault → String
  | help _ => "DisplayHelp"
  | version _ => "DisplayVersion"
  | nothingGiven _ => "DisplayHelpOnMissingArgumentOrSubcommand"
  | invalidValue _ _ _ => "InvalidValue"
  | unknownArgument _ => "UnknownArgument"
  | unknownSubcommand _ => "InvalidSubcommand"
  | excessValue _ _ => "TooManyValues"
  | repeated _ => "ArgumentConflict"
  | conflict _ _ => "ArgumentConflict"
  | missingArgument _ => "MissingRequiredArgument"
  | missingSubcommand _ _ => "MissingSubcommand"

/-- The exit code of a program that stops with the fault; asking for help or the
version is none. -/
def exitCode : UsageFault → Nat
  | help _ => 0
  | version _ => 0
  | _ => 2

/-- What may be chosen, on a line of its own. -/
def listed (heading : String) (choices : List String) : String :=
  if choices.isEmpty then ""
  else "\n  [" ++ heading ++ ": " ++ ", ".intercalate choices ++ "]"

/-- The fault in words. -/
def message : UsageFault → String
  | help page => page
  | version text => text
  | nothingGiven page => page
  | invalidValue argument "" choices =>
    "a value is required for '" ++ argument ++ "' but none was supplied" ++
      listed "possible values" choices
  | invalidValue argument value choices =>
    "invalid value '" ++ value ++ "' for '" ++ argument ++ "'" ++ listed "possible values" choices
  | unknownArgument argument => "unexpected argument '" ++ argument ++ "' found"
  | unknownSubcommand word => "unrecognized subcommand '" ++ word ++ "'"
  | excessValue argument value =>
    "unexpected value '" ++ value ++ "' for '" ++ argument ++ "' found; no more were expected"
  | repeated argument => "the argument '" ++ argument ++ "' cannot be used multiple times"
  | conflict argument other => "the argument '" ++ argument ++ "' cannot be used with '" ++ other ++ "'"
  | missingArgument argument =>
    "the following required arguments were not provided:\n  " ++ argument
  | missingSubcommand command subcommands =>
    "'" ++ command ++ "' requires a subcommand but one was not provided" ++
      listed "subcommands" subcommands

/-- Whether the fault is told by its own text alone. -/
def isPage : UsageFault → Bool
  | help _ => true
  | version _ => true
  | nothingGiven _ => true
  | _ => false

end UsageFault

/-- Why a command line cannot be run, and what is said beside it. -/
structure UsageError where
  fault : UsageFault
  tips : List String := []
  usage : Option String := none
  deriving DecidableEq, Repr

namespace UsageError

/-- What a program that stops with the error writes. -/
def text (e : UsageError) : String :=
  if e.fault.isPage then e.fault.message
  else
    "error: " ++ e.fault.message ++
    (if e.tips.isEmpty then "" else "\n") ++ String.join (e.tips.map ("\n  tip: " ++ ·)) ++
    (e.usage.map ("\n\n" ++ ·)).getD "" ++ "\n\nFor more information, try '--help'.\n"

/-- The tip that names something similar. -/
def similarTip (kind : String) (names : List String) : List String :=
  let quoted := ", ".intercalate (names.map fun name => "'" ++ name ++ "'")
  match names with
  | [] => []
  | [_] => ["a similar " ++ kind ++ " exists: " ++ quoted]
  | _ => ["some similar " ++ kind ++ "s exist: " ++ quoted]

/-- A value that an argument does not accept. -/
def ofValue (argument value : String) (choices : List String) : UsageError where
  fault := .invalidValue argument value choices
  tips := similarTip "value" (Text.closeTo value choices).getLast?.toList

/-- A fault that is told with the usage line of a command. -/
def within (c : Command) (used : List String) (fault : UsageFault) (tips : List String := []) :
    UsageError where
  fault := fault
  tips := tips
  usage := some (c.usage used)

end UsageError

end ModuleBundler.CommandLine
