/-
# ModuleBundler.FileTree.Resolve -- from paths to locations

Following a path through a tree, name by name. Every step but the last must lead
to a directory; a link on the way is followed, and the last name's link is
followed or not as the caller asks (`Purpose`). At most forty links are followed,
no name is longer than 255 bytes, and no path longer than 4095.

A path that ends in a slash can only name a directory.
-/

import ModuleBundler.FileTree.Basic

namespace ModuleBundler

/-- Why an operation on files failed. -/
inductive IoError where
  | notFound
  | notADirectory
  | isADirectory
  | alreadyExists
  | invalidData
  | invalidInput
  /-- An argument of a program cannot be one. -/
  | invalidArgument
  | invalidFilename
  | filesystemLoop
  | permissionDenied
  deriving DecidableEq, Repr

namespace IoError

/-- The error as one word. -/
def word : IoError → String
  | notFound => "NotFound"
  | notADirectory => "NotADirectory"
  | isADirectory => "IsADirectory"
  | alreadyExists => "AlreadyExists"
  | invalidData => "InvalidData"
  | invalidInput => "InvalidInput"
  | invalidArgument => "InvalidInput"
  | invalidFilename => "InvalidFilename"
  | filesystemLoop => "FilesystemLoop"
  | permissionDenied => "PermissionDenied"

/-- The error in the words of the operating system. -/
def message : IoError → String
  | notFound => "No such file or directory (os error 2)"
  | notADirectory => "Not a directory (os error 20)"
  | isADirectory => "Is a directory (os error 21)"
  | alreadyExists => "File exists (os error 17)"
  | invalidData => "stream did not contain valid UTF-8"
  | invalidInput => "file name contained an unexpected NUL byte"
  | invalidArgument => "nul byte found in provided data"
  | invalidFilename => "File name too long (os error 36)"
  | filesystemLoop => "Too many levels of symbolic links (os error 40)"
  | permissionDenied => "Permission denied (os error 13)"

end IoError

/-- One step of following a path. -/
inductive Step where
  | here
  | up
  | name (text : String)
  /-- The slash behind the last name, which asks for a directory. -/
  | slash
  deriving DecidableEq, Repr

namespace Path

/-- The steps of a path from the directory it starts at. -/
def steps (p : Path) : List Step :=
  (p.segments.filter (· ≠ [])).map fun segment =>
    if segment = ['.'] then .here
    else if segment = ['.', '.'] then .up
    else .name (String.ofList segment)

/-- Whether a path ends in a slash. -/
def endsInSlash (p : Path) : Bool :=
  p.text.toList.getLast? == some '/'

/-- The steps of a path that is looked up: a trailing slash asks for a directory. -/
def lookupSteps (p : Path) : List Step :=
  if p.endsInSlash then p.steps ++ [.slash] else p.steps

/-- The number of bytes that no path may reach. -/
def lengthLimit : Nat := 4096

/-- The number of bytes that no name may exceed. -/
def nameLimit : Nat := 255

/-- Whether nothing can have this path: it holds a NUL, is empty, or is too long. -/
def fault? (p : Path) : Option IoError :=
  if p.text.toList.contains '\x00' then some .invalidInput
  else if p.text = "" then some .notFound
  else if lengthLimit ≤ p.text.utf8ByteSize then some .invalidFilename
  else none

end Path

/-- Where a path leads. -/
inductive Destination where
  | found (location : Location) (node : Node)
  /-- Nothing is there, but the directory that would hold it is. -/
  | vacant (location : Location)
  deriving DecidableEq, Repr

/-- What a path is followed for. -/
inductive Purpose where
  /-- To see what it leads to. -/
  | look
  /-- To see what its last name stands for: a link there is not followed. -/
  | entry
  /-- To write a file: no slash may stand behind its name. -/
  | write
  deriving DecidableEq, Repr

namespace FileTree

/-- Follows steps from a directory, without following more than the links that
`onLink` follows: it is given the directory of the link, the link's target and
the steps that remain. -/
def walkSteps (t : FileTree) (purpose : Purpose)
    (onLink : Location → String → List Step → Except IoError Destination) :
    Location → List Step → Except IoError Destination
  | at_, [] => .ok (.found at_ .directory)
  | at_, .here :: rest => walkSteps t purpose onLink at_ rest
  | at_, .slash :: rest => walkSteps t purpose onLink at_ rest
  | at_, .up :: rest => walkSteps t purpose onLink at_.dropLast rest
  | at_, .name n :: rest =>
    if purpose = .write && rest = [.slash] then .error .isADirectory
    else if Path.nameLimit < n.utf8ByteSize then .error .invalidFilename
    else match t.lookup (at_ ++ [n]) with
    | none =>
      if rest.isEmpty && (t.lookup at_).isSome then .ok (.vacant (at_ ++ [n])) else .error .notFound
    | some .directory => walkSteps t purpose onLink (at_ ++ [n]) rest
    | some (.file content) =>
      if rest.isEmpty then .ok (.found (at_ ++ [n]) (.file content)) else .error .notADirectory
    | some (.link target) =>
      if rest.isEmpty && purpose = .entry then .ok (.found (at_ ++ [n]) (.link target))
      else onLink at_ target rest

/-- Follows steps from a directory, and at most the given number of links. -/
def follow (t : FileTree) (purpose : Purpose) :
    Nat → Location → List Step → Except IoError Destination
  | 0 => walkSteps t purpose fun _ _ _ => .error .filesystemLoop
  | links + 1 => walkSteps t purpose fun at_ target rest =>
      let path : Path := ⟨target⟩
      follow t purpose links (if path.isAbsolute then [] else at_) (path.lookupSteps ++ rest)

/-- The most links that one look-up follows. -/
def maxLinks : Nat := 40

/-- Where steps lead that are taken from the working directory, or from the root
directory for an absolute path. -/
def destination (t : FileTree) (workingDir : Location) (purpose : Purpose) (p : Path)
    (steps : List Step) : Except IoError Destination :=
  match p.fault? with
  | some fault => .error fault
  | none => t.follow purpose maxLinks (if p.isAbsolute then [] else workingDir) steps

/-- What stands at a path, with every link followed. -/
def find (t : FileTree) (workingDir : Location) (p : Path) : Except IoError (Location × Node) :=
  match t.destination workingDir .look p p.lookupSteps with
  | .ok (.found location node) => .ok (location, node)
  | .ok (.vacant _) => .error .notFound
  | .error e => .error e

/-- Whether a path leads to a regular file. -/
def isFile (t : FileTree) (workingDir : Location) (p : Path) : Bool :=
  match t.find workingDir p with
  | .ok (_, node) => node.isFile
  | .error _ => false

/-- The location of the directory that a path leads to. -/
def directory? (t : FileTree) (workingDir : Location) (p : Path) : Option Location :=
  match t.find workingDir p with
  | .ok (location, .directory) => some location
  | _ => none

/-- Whether a path leads anywhere. -/
def exists? (t : FileTree) (workingDir : Location) (p : Path) : Bool :=
  match t.find workingDir p with
  | .ok _ => true
  | .error _ => false

/-- The text of the file at a path. -/
def readText (t : FileTree) (workingDir : Location) (p : Path) : Except IoError String :=
  match t.find workingDir p with
  | .ok (_, .file (.text text)) => .ok text
  | .ok (_, .file (.binary _)) => .error .invalidData
  | .ok (_, _) => .error .isADirectory
  | .error e => .error e

end FileTree

end ModuleBundler
