/-
# ModuleBundler.Log -- events that a run reports beside its result

An event has a level, the part of the program that it comes from, a message and
named fields. The verbosity of the command line picks the lowest level that is shown
(`Level.ofVerbosity`), and an event becomes one line: level, message, and
`name=value` for each field, in order.
-/

import ModuleBundler.Text.Quoted

namespace ModuleBundler.Log

/-! ## Levels -/

/-- How serious an event is. -/
inductive Level where
  | error
  | warn
  | info
  | debug
  | trace
  deriving DecidableEq, Repr

namespace Level

/-- The rank of a level: the more serious, the lower. -/
def rank : Level → Nat
  | error => 0
  | warn => 1
  | info => 2
  | debug => 3
  | trace => 4

/-- The level in lower case, as settings write it. -/
def word : Level → String
  | error => "error"
  | warn => "warn"
  | info => "info"
  | debug => "debug"
  | trace => "trace"

/-- The level as a log line starts with it. -/
def heading : Level → String
  | error => "ERROR"
  | warn => "WARN"
  | info => "INFO"
  | debug => "DEBUG"
  | trace => "TRACE"

/-- The level that the flags of the command line ask for: quiet wins, and each
`-v` shows one level more. -/
def ofVerbosity (verbose : Nat) (quiet : Bool) : Level :=
  if quiet then error
  else match verbose with
    | 0 => warn
    | 1 => info
    | 2 => debug
    | _ => trace

end Level

/-! ## Events -/

/-- The value of a field: written bare, or as a quoted text. -/
inductive Value where
  | bare (text : String)
  | quoted (text : String)
  deriving DecidableEq, Repr

namespace Value

/-- The text that a value stands for. -/
def text : Value → String
  | bare t => t
  | quoted t => t

/-- The value as a log line shows it. -/
def render : Value → String
  | bare t => t
  | quoted t => Text.quoted t

end Value

/-- The parts of the program that report events. -/
inductive Part where
  | expansion
  | compilation
  | compression
  | watching
  | configuration
  | commandLine
  deriving DecidableEq, Repr

/-- The name that settings know a part by. -/
def Part.name : Part → String
  | expansion => "amdbundle::app::expand"
  | compilation => "amdbundle::app::compile"
  | compression => "amdbundle::app::compress"
  | watching => "amdbundle::app::watch"
  | configuration => "amdbundle::infra::config"
  | commandLine => "amdbundle::ui::cli"

/-- One event. -/
structure Event where
  level : Level
  part : Part
  message : String
  fields : List (String × Value) := []
  deriving DecidableEq, Repr

namespace Event

/-- The names of what an event says: of its message and its fields. -/
def names (e : Event) : List String :=
  "message" :: e.fields.map Prod.fst

/-- The event as one line of the log. -/
def line (e : Event) : String :=
  e.fields.foldl (fun written field => written ++ " " ++ field.1 ++ "=" ++ field.2.render)
    (e.level.heading ++ " " ++ e.message)

end Event

end ModuleBundler.Log
