/-
# ModuleBundler.Shell.Tool.Basic -- programs as functions of what they see

A program sees its arguments, its input, its directory and the file tree. It gives a
status, what it wrote, and the tree as it left it. What it writes to its output and
about its errors is kept in order.
-/

import ModuleBundler.Shell.Process
import ModuleBundler.Shell.Tool.Quoting

namespace ModuleBundler.Shell

/-- Why a program cannot read its input. -/
inductive InputFault where
  | closed
  | isADirectory
  deriving DecidableEq, Repr

/-- The fault in the words that programs use. -/
def InputFault.reason : InputFault → String
  | closed => "Bad file descriptor"
  | isADirectory => "Is a directory"

/-- What a program sees. -/
structure Call where
  tree : FileTree
  dir : Location
  /-- The name under which it was started. -/
  name : String
  arguments : List String
  /-- Its input, unless that cannot be read. -/
  input : Except InputFault Bytes
  /-- The file that its input comes from, and the place in it. -/
  inputPlace : Option (Location × Nat) := none
  /-- The file that its output goes to, and the place in it. -/
  outputPlace : Option (Location × Nat) := none
  /-- Whether its output goes anywhere. -/
  hasOutput : Bool := true
  environment : List (String × String)

/-- What a program left behind. -/
structure Effect where
  tree : FileTree
  status : Nat := 0
  /-- What was written in order, and whether it was about an error. -/
  written : List (Bool × Bytes) := []
  /-- Whether the input was read. -/
  readsInput : Bool := false

/-- A program. -/
abbrev Tool := Call → Effect

namespace Effect

/-- Writes bytes to the output. -/
def put (e : Effect) (bytes : Bytes) : Effect :=
  { e with written := e.written ++ [(false, bytes)] }

/-- Reports an error, and goes on. -/
def complain (e : Effect) (c : Call) (message : String) : Effect :=
  { e with
    status := 1
    written := e.written ++ [(true, Text.toOctets (c.name ++ ": " ++ message ++ "\n"))] }

end Effect

namespace Call

/-- Nothing is done yet. -/
def start (c : Call) : Effect := { tree := c.tree }

/-- A program that fails with a message. -/
def fails (c : Call) (message : String) : Effect := c.start.complain c message

/-- A message that asks for the help of a program to be read. -/
def helpHint (c : Call) (message : String) : String :=
  message ++ "\nTry '" ++ c.name ++ " --help' for more information."

/-- A program that was called in a way it does not know. -/
def misused (c : Call) (message : String) : Effect := c.fails (c.helpHint message)

/-- Whether an argument is an option. -/
def isOption (argument : String) : Bool :=
  argument.startsWith "-" && argument.length > 1

/-- The letters of the options. -/
def options (c : Call) : List Char :=
  ((c.arguments.takeWhile (· ≠ "--")).filter fun a => isOption a && !a.startsWith "--").flatMap
    fun a => a.toList.drop 1

/-- The arguments that are no options. -/
def operands (c : Call) : List String :=
  let front := c.arguments.takeWhile (· ≠ "--")
  front.filter (!isOption ·) ++ c.arguments.drop (front.length + 1)

end Call

namespace Tool

/-- The error in the words that programs use. -/
def reason : IoError → String
  | .notFound => "No such file or directory"
  | .notADirectory => "Not a directory"
  | .isADirectory => "Is a directory"
  | .alreadyExists => "File exists"
  | .invalidFilename => "File name too long"
  | .filesystemLoop => "Too many levels of symbolic links"
  | .permissionDenied => "Permission denied"
  | e => e.message

/-- A program with only the known options; another one is refused. -/
def withOptions (known : List Char) (tool : Tool) : Tool := fun c =>
  match c.options.find? fun o => !known.contains o with
  | some o => c.misused ("invalid option -- '" ++ o.toString ++ "'")
  | none => tool c

/-- The bytes of a file. -/
def bytesOf (t : FileTree) (dir : Location) (path : String) : Except IoError Bytes :=
  match t.find dir ⟨path⟩ with
  | .ok (_, .file content) => .ok content.toBytes
  | .ok _ => .error .isADirectory
  | .error e => if path = "/dev/null" then .ok [] else .error e

/-- Splits bytes into lines without their ends. -/
def lines (bytes : Bytes) : List Bytes :=
  let pieces := Text.splitOn 0x0A bytes
  if pieces.getLast? = some [] then pieces.dropLast else pieces

/-- Lines with their ends. -/
def joined (ls : List Bytes) : Bytes :=
  ls.flatMap (· ++ [0x0A])

/-- A path and a reason. -/
def plainly (file reason : String) : String := quotedIfNeeded file ++ ": " ++ reason

/-- A program that makes something of the bytes of each file that is named, or of the
input where none is; an unreadable file is reported as `wording` says. -/
def onFiles (files : List String) (wording : String → String → String)
    (make : Effect → String → Bytes → Effect) : Tool := fun c =>
  (if files.isEmpty then ["-"] else files).foldl (fun e file =>
    if file = "-" then
      match c.input with
      | .ok bytes => { make e file (if e.readsInput then [] else bytes) with readsInput := true }
      | .error fault => e.complain c (wording file fault.reason)
    else match bytesOf e.tree c.dir file with
      | .ok bytes => make e file bytes
      | .error error => e.complain c (wording file (reason error))) c.start

end Tool

end ModuleBundler.Shell
