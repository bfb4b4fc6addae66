/-
# ModuleBundler.Shell.Program -- finding programs

A name with a slash is the path of a program; any other name is looked for in the
directories of a search path. Only what is installed can run: whatever else is found
may not be run.
-/

import ModuleBundler.Shell.Process
import ModuleBundler.Shell.Tool

namespace ModuleBundler.Shell

/-- A program that is installed. -/
inductive Program where
  | tool (tool : Tool)
  | shell
  /-- Runs another program in an environment of its own. -/
  | environment

namespace Program

/-- The names of the shell. -/
def shellNames : List String := ["sh", "dash", "bash"]

/-- The name of the program that runs others in an environment of theirs. -/
def environmentName : String := "env"

/-- The program that is installed under a name. -/
def named? (name : String) : Option Program :=
  if shellNames.contains name then some .shell
  else if name = environmentName then some .environment
  else (Tool.ofName? name).map .tool

/-- The program that is installed at a location. -/
def at? (location : Location) : Option Program :=
  if location.dropLast = programDirectory then location.getLast?.bind named? else none

/-- The program at a path. -/
def atPath (t : FileTree) (dir : Location) (path : String) : Except IoError Program := do
  let (location, node) ← t.find dir ⟨path⟩
  match at? location with
  | some program => if node.isFile then .ok program else .error .permissionDenied
  | none => .error .permissionDenied

/-- The paths at which a search path looks for a name. -/
def candidates (searchPath name : String) : List String :=
  (Text.splitOn ':' searchPath.toList).map fun directory =>
    if directory = [] then name else (Path.join ⟨String.ofList directory⟩ ⟨name⟩).text

/-- Looks at one path after the other. What may not be run is remembered, what is
not there passed over, and any other error ends the search. -/
def search (t : FileTree) (dir : Location) (forbidden : Bool) (last : IoError) :
    List String → Except IoError Program
  | [] => .error (if forbidden then .permissionDenied else last)
  | path :: rest =>
    match atPath t dir path with
      | .ok program => .ok program
      | .error .permissionDenied => search t dir true last rest
      | .error .notFound => search t dir forbidden .notFound rest
      | .error .notADirectory => search t dir forbidden .notADirectory rest
      | .error e => .error e

/-- Finds a program by its name. -/
def find (t : FileTree) (dir : Location) (searchPath name : String) : Except IoError Program :=
  if name = "" then .error .notFound
  else if name.toList.contains '/' then atPath t dir name
  else if Path.nameLimit < name.utf8ByteSize then .error .invalidFilename
  else search t dir false .notFound (candidates searchPath name)

/-- The path at which a search path has a program. -/
def path? (t : FileTree) (dir : Location) (searchPath name : String) : Option String :=
  (candidates searchPath name).find? fun path => (atPath t dir path).isOk

end Program

end ModuleBundler.Shell
