/-
# ModuleBundler.FileTree.Edit -- writing files and making directories

Writing replaces what a file held, or makes the file where its directory exists.
`makeDirectories` makes a directory and every directory above it that is missing;
one that is already there is no error.
-/

import ModuleBundler.FileTree.Resolve

namespace ModuleBundler.FileTree

/-- Fails unless steps lead to a directory. -/
def requireDirectory (t : FileTree) (workingDir : Location) (p : Path) (steps : List Step) :
    Except IoError Unit :=
  match t.destination workingDir .look p steps with
  | .ok (.found _ .directory) => .ok ()
  | .ok (.found _ _) => .error .notADirectory
  | .ok (.vacant _) => .error .notFound
  | .error e => .error e

/-- The location that a file written to a path gets. -/
def fileLocation (t : FileTree) (workingDir : Location) (p : Path) : Except IoError Location :=
  match t.destination workingDir .write p p.lookupSteps with
  | .ok (.found location (.file _)) => .ok location
  | .ok (.found _ _) => .error .isADirectory
  | .ok (.vacant location) => .ok location
  | .error e => .error e

/-- Writes a file, in place of what it held. -/
def writeFile (t : FileTree) (workingDir : Location) (p : Path) (content : Content) :
    Except IoError FileTree :=
  (t.fileLocation workingDir p).map fun location => t.insert location (.file content)

/-- Makes one directory, whose parent must exist. -/
def makeDirectory (t : FileTree) (workingDir : Location) (p : Path) : Except IoError FileTree :=
  match p.steps.getLast? with
  | some (.name _) =>
    match t.destination workingDir .entry p p.steps with
    | .ok (.vacant location) => .ok (t.insert location .directory)
    | .ok (.found _ _) => .error .alreadyExists
    | .error e => .error e
  | _ => do
    t.requireDirectory workingDir p p.steps.dropLast
    .error .alreadyExists

/-- A tree, and how far a change of it came: what was changed before a failure
stays changed. -/
abbrev Attempt := FileTree × Except IoError Unit

/-- Makes one directory, unless the path already leads to one. -/
def ensureDirectory (t : FileTree) (workingDir : Location) (p : Path) : Attempt :=
  match t.makeDirectory workingDir p with
  | .ok t' => (t', .ok ())
  | .error e => if (t.directory? workingDir p).isSome then (t, .ok ()) else (t, .error e)

/-- Makes a directory and those above it that are missing, given its ancestors,
the nearest first. The empty path stands for the working directory. -/
def makeDirectoriesUpTo (t : FileTree) (workingDir : Location) (p : Path) :
    List Path → Attempt
  | [] => if p.text = "" then (t, .ok ()) else t.ensureDirectory workingDir p
  | parent :: above =>
    if p.text = "" then (t, .ok ())
    else match t.makeDirectory workingDir p with
      | .ok t' => (t', .ok ())
      | .error .notFound =>
        match makeDirectoriesUpTo t workingDir parent above with
        | (t', .ok ()) => t'.ensureDirectory workingDir p
        | failed => failed
      | .error e => if (t.directory? workingDir p).isSome then (t, .ok ()) else (t, .error e)

/-- Makes a directory and those above it that are missing. Those that were made
stay when one of them cannot be made. -/
def makeDirectories (t : FileTree) (workingDir : Location) (p : Path) : Attempt :=
  match p.fault? with
  | some .invalidFilename => (t, .error .invalidFilename)
  | _ => t.makeDirectoriesUpTo workingDir p p.parents

end ModuleBundler.FileTree
