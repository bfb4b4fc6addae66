/-
# ModuleBundler.Failure -- why a run stopped

A failure has a cause and, around it, the activities that it interrupted, the
outermost first. Its messages are those activities followed by the cause; a
module that cannot be named explains itself in two messages.
-/

import ModuleBundler.FileTree.Resolve
import ModuleBundler.Glob.Parser
import ModuleBundler.Identifier
import ModuleBundler.Options
import ModuleBundler.Shell.Signal
import ModuleBundler.Toml.Error

namespace ModuleBundler

/-- What went wrong. -/
inductive Fault where
  | config (error : ConfigError)
  | missingDestination (target : String)
  /-- A module whose path does not contain the module root. -/
  | unnamedModule (file : Path) (error : RootMissing)
  | glob (pattern : String) (error : Glob.SyntaxError)
  | io (error : IoError)
  | toml (document : String) (error : Toml.Error)
  | commandFailed (target : String) (status : Shell.ExitStatus)
  deriving DecidableEq, Repr

namespace Fault

/-- The messages of a fault, the outermost first. -/
def messages : Fault → List String
  | config e => [e.message]
  | missingDestination target => ["target '" ++ target ++ "' has no dest path"]
  | unnamedModule file e => ["cannot name module " ++ file.text, e.message]
  | glob pattern e => ["error parsing glob '" ++ pattern ++ "': " ++ e.message]
  | io e => [e.message]
  | toml document e => [e.render document.toList]
  | commandFailed target status =>
    ["compress command for target '" ++ target ++ "' exited with status " ++ status.message]

end Fault

/-- Why a run stopped. -/
structure Failure where
  /-- What was being done, the outermost activity first. -/
  context : List String := []
  fault : Fault
  deriving DecidableEq, Repr

namespace Failure

/-- The failure as part of a wider activity. -/
def within (activity : String) (f : Failure) : Failure :=
  { f with context := activity :: f.context }

/-- Every message of a failure, the outermost first. -/
def messages (f : Failure) : List String :=
  f.context ++ f.fault.messages

/-- The failure as the program writes it at its end: the outermost message, and
below it the others, numbered if there are several. -/
def report (f : Failure) : String :=
  match f.messages with
  | [] => ""
  | [message] => "Error: " ++ message ++ "\n"
  | [message, cause] =>
    "Error: " ++ message ++ "\n\nCaused by:\n" ++ indented "    " "    " cause ++ "\n"
  | message :: causes =>
    "Error: " ++ message ++ "\n\nCaused by:\n" ++
      String.join ((causes.zipIdx).map fun (cause, n) =>
        let number := Nat.repr n
        indented ("".pushn ' ' (5 - number.length) ++ number ++ ": ") "       " cause ++ "\n")
where
  /-- A message behind a heading, its further lines moved in. -/
  indented (heading margin message : String) : String :=
    heading ++ ("\n" ++ margin).intercalate (message.splitOn "\n")

end Failure

/-- An outcome, as part of a wider activity. -/
def withContext {α : Type} (activity : String) (outcome : Except Failure α) : Except Failure α :=
  outcome.mapError (Failure.within activity)

end ModuleBundler
