/-
# ModuleBundler.Session -- the files a run works on, and what it has written

A run sees a file tree, a working directory and an environment. It changes the
tree, writes to its output, and reports events; what it wrote stays written when
it fails later. `Job` is a step of a run that may fail.

The working directory is moved along when others rename it, and may be removed.
-/

import ModuleBundler.Failure
import ModuleBundler.FileTree.Change
import ModuleBundler.Log

namespace ModuleBundler

/-- The variables of the environment. -/
abbrev Environment := List (String × String)

namespace Environment

/-- The value of a variable. -/
def get? (e : Environment) (name : String) : Option String :=
  (e.find? fun entry => entry.1 == name).map Prod.snd

/-- Sets a variable, or unsets it. -/
def set (e : Environment) (name : String) (value : Option String) : Environment :=
  let others := e.filter fun entry => entry.1 != name
  match value with
  | some v => others ++ [(name, v)]
  | none => others

end Environment

/-- Something reported beside the output: an event, or what a command wrote. -/
inductive Notice where
  | event (event : Log.Event)
  | written (bytes : List UInt8)
  deriving DecidableEq, Repr

/-- The state of a run. -/
structure Session where
  tree : FileTree := .empty
  workingDir : Location := []
  environment : Environment := []
  /-- What was written to the output. -/
  output : List UInt8 := []
  /-- What was reported so far, in order. -/
  notices : List Notice := []

/-- A step of a run. -/
abbrev Job (α : Type) := ExceptT Failure (StateM Session) α

namespace Job

/-- Stops the run. -/
def fail {α : Type} (f : Failure) : Job α := throw f

/-- The result of a computation that sees no state. -/
def ofExcept {α : Type} : Except Failure α → Job α
  | .ok a => pure a
  | .error f => fail f

/-- Reports an event. -/
def report (event : Log.Event) : Job Unit :=
  modify fun s => { s with notices := s.notices ++ [.event event] }

/-- Writes to the output. -/
def print (text : String) : Job Unit :=
  modify fun s => { s with output := s.output ++ text.toUTF8.toList }

end Job

namespace Session

/-- The path of the working directory, unless it was removed. -/
def workingPath? (s : Session) : Option Path :=
  (s.tree.lookup s.workingDir).map fun _ => FileTree.pathOf s.workingDir

/-- Where a location is after a change. What was removed stands in its former
directory under no name: nothing leads into it, and a way leads up from it. -/
def whereAfter (changed : FileTree.Changed) (l : Location) : Location :=
  (changed.whereIs l).getD (l.dropLast ++ [""])

/-- The session after a change of its tree that others made. -/
def changed (s : Session) (c : FileTree.Changed) : Session :=
  { s with tree := c.tree, workingDir := whereAfter c s.workingDir }

/-- The session after a change that others make below a base directory. -/
def change (s : Session) (base : Location) (c : Change) : Session :=
  s.changed (s.tree.change base c)

end Session

end ModuleBundler
