/-
# ModuleBundler.CommandLine.Invocation -- the commands of the program

`build` compiles targets, `targets` lists them, `compress-config` prints the
compression settings, and `completions` prints a script for a shell. The options
for the configuration file and for verbosity may stand anywhere; where one of
them is given in front of the subcommand and behind it, the one behind it counts.
-/

import ModuleBundler.CommandLine.Grammar
import ModuleBundler.Log

namespace ModuleBundler.CommandLine

/-! ## The grammar -/

/-- The options of every command that say how it runs. -/
def configOption : Argument where
  id := "config"
  action := .set
  short := some 'c'
  long := some "config"
  valueName := "FILE"
  about := "Project configuration file (defaults to the nearest amdbundle.toml)"
  accepted := .nonEmpty

def verboseOption : Argument where
  id := "verbose"
  action := .count
  short := some 'v'
  long := some "verbose"
  about := "Increase log verbosity (-v info, -vv debug, -vvv trace)"

def quietOption : Argument where
  id := "quiet"
  action := .flag
  short := some 'q'
  long := some "quiet"
  about := "Only log errors"

def helpOption : Argument where
  id := "help"
  action := .help
  short := some 'h'
  long := some "help"
  about := "Print help"

/-- The options of every command. -/
def globalOptions : List Argument :=
  [configOption, verboseOption, quietOption, helpOption]

/-- Being quiet and being verbose exclude each other. -/
def globalConflicts : List (String × String) := [("quiet", "verbose")]

/-- The name of the program. -/
def programName : String := "amdbundle"

/-- The version of the program. -/
def programVersion : String := "0.1.0"

/-- The subcommands, and what they are for. -/
def purposes : List (String × String) :=
  [ ("build", "Compile bundle targets"), ("targets", "List declared targets"),
    ("compress-config", "Print the derived compression configuration as JSON"),
    ("completions", "Generate shell completions"),
    ("help", "Print this message or the help of the given subcommand(s)") ]

/-- The program itself. -/
def rootCommand : Command where
  name := programName
  about := "Bundle AMD modules into named output files"
  options := globalOptions ++
    [ { id := "version", action := .version, short := some 'V', long := some "version",
        valueName := programVersion, about := "Print version" } ]
  subcommands := purposes
  conflicts := globalConflicts

/-- A command without arguments of its own. -/
def plainCommand (name : String) : Command where
  name := programName ++ " " ++ name
  about := ((purposes.find? fun entry => entry.1 == name).map Prod.snd).getD ""
  options := globalOptions
  conflicts := globalConflicts

/-- The command that compiles targets. -/
def buildCommand : Command :=
  { plainCommand "build" with
    options :=
      [ configOption,
        { id := "exclude", action := .append, long := some "exclude", valueName := "TARGET",
          about := "Targets to leave out" },
        { id := "optimized", action := .flag, long := some "optimized",
          about := "Run the configured compressor on every compiled bundle" },
        verboseOption, quietOption,
        { id := "watch", action := .flag, short := some 'w', long := some "watch",
          about := "Recompile whenever a source file changes" },
        helpOption ]
    positional := some
      ⟨{ id := "targets", action := .append, valueName := "TARGET",
         about := "Targets to compile (all when omitted)" }, true⟩ }

/-- The shells that a completion script can be printed for. -/
def shells : List String := ["bash", "elvish", "fish", "powershell", "zsh"]

/-- The command that prints a completion script. -/
def completionsCommand : Command :=
  { plainCommand "completions" with
    positional := some
      ⟨{ id := "shell", action := .set, valueName := "SHELL", accepted := .oneOf shells }, false⟩ }

/-- The command that prints help pages. -/
def helpCommand : Command :=
  { plainCommand "help" with
    options := []
    conflicts := []
    positional := some
      ⟨{ id := "subcommand", action := .append, valueName := "COMMAND",
         about := "Print help for the subcommand(s)" }, true⟩ }

/-- The grammar of a subcommand. -/
def subcommand (name : String) : Command :=
  match name with
  | "build" => buildCommand
  | "completions" => completionsCommand
  | "help" => helpCommand
  | name => plainCommand name

/-! ## Invocations -/

/-- What to compile. -/
structure BuildRequest where
  targets : List String := []
  exclude : List String := []
  /-- Whether bundles are compressed. -/
  optimized : Bool := false
  /-- Whether to go on and compile again after changes. -/
  watch : Bool := false
  deriving DecidableEq, Repr

/-- What the program is asked to do. -/
inductive Request where
  | build (request : BuildRequest)
  | targets
  | compressConfig
  | completions (shell : String)
  deriving DecidableEq, Repr

/-- A command line that can be run. -/
structure Invocation where
  config : Option String
  verbose : Nat
  quiet : Bool
  request : Request
  deriving DecidableEq, Repr

/-- The level of the events that are shown. -/
def Invocation.level (i : Invocation) : Log.Level :=
  .ofVerbosity i.verbose i.quiet

/-- What a subcommand asks for, given what was read behind it. -/
def requestOf (name : String) (s : State) : Request :=
  match name with
  | "build" => .build ⟨s.valuesOf "targets", s.valuesOf "exclude", s.has "optimized", s.has "watch"⟩
  | "compress-config" => .compressConfig
  | "completions" => .completions ((s.valuesOf "shell").headD "")
  | _ => .targets

/-- The most that verbosity is counted to. -/
def maxVerbosity : Nat := 255

/-- The values of a global option: those behind the subcommand, or else those in
front of it. -/
def globalValues (outer inner : State) (id : String) : List String :=
  if inner.has id then inner.valuesOf id else outer.valuesOf id

/-- The error that asking for help on words ends with: the page of the command that
they name. -/
def helpOn (words : List String) : UsageError :=
  match words with
  | [] => ⟨.help rootCommand.page, [], none⟩
  | word :: rest =>
    if !rootCommand.subcommandNames.contains word then
      .within rootCommand [] (.unknownSubcommand word)
    else match rest with
      | [] => ⟨.help (subcommand word).page, [], none⟩
      | other :: _ => .within (subcommand word) [] (.unknownSubcommand other)

/-- Reads a command line, the words behind the program's name. -/
def parse (words : List String) : Except UsageError Invocation := do
  match ← readWords rootCommand (rootCommand.subcommandNames.map subcommand) {} words with
  | (s, none) =>
    let _ ← conclude rootCommand s false
    .error (.within rootCommand [] (.missingSubcommand programName rootCommand.subcommandNames))
  | (s, some (name, rest)) =>
    if name = "help" then .error (helpOn rest)
    else do
      let command := subcommand name
      let (inner, _) ← readWords command [] {} rest
      let inner ← conclude command inner true
      let outer ← conclude rootCommand s true
      return {
        config := (globalValues outer inner "config").head?
        verbose := min maxVerbosity (globalValues outer inner "verbose").length
        quiet := inner.has "quiet" || outer.has "quiet"
        request := requestOf name inner }

end ModuleBundler.CommandLine
