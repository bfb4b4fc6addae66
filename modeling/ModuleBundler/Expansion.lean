/-
# ModuleBundler.Expansion -- from input patterns to source files

Patterns are applied in order. A pattern with `*`, `?`, `[` or a brace is a glob:
it adds the files it matches below the base directory, sorted by display path.
Any other pattern names one file, and adds it if it is there. A pattern behind a
`!` takes away what was matched so far. A file stays at the place where it was
matched first. A pattern that matches nothing is no error, a malformed one is.

A glob is looked for below the directories that it names literally, so hidden
directories are entered where the pattern spells them out and nowhere else.
-/

import ModuleBundler.Bundle
import ModuleBundler.Failure
import ModuleBundler.FileTree.Walk

namespace ModuleBundler

/-! ## Patterns -/

/-- What an input pattern asks for. -/
inductive InputPattern where
  /-- Take away every path that the glob matches. -/
  | exclude (glob : List Char)
  /-- The one file of that path. -/
  | file (path : List Char)
  /-- Every file that the glob matches. -/
  | glob (glob : List Char)
  deriving DecidableEq, Repr

namespace InputPattern

/-- Whether a character makes a pattern a glob. -/
def isGlobMark (c : Char) : Bool :=
  c == '*' || c == '?' || c == '[' || c == '\x7b'

/-- Reads a pattern: a leading `!` excludes, and any number of leading `./` is dropped. -/
def ofText (text : List Char) : InputPattern :=
  match text with
  | '!' :: rest => .exclude (Text.dropRepeated ['.', '/'] 0 rest)
  | text =>
    let body := Text.dropRepeated ['.', '/'] 0 text
    if body.any isGlobMark then .glob body else .file body

/-- The directory a glob is looked for in: its leading segments that hold no
glob mark. The last segment names files, and is never one of them. -/
def literalPrefix (glob : List Char) : Path :=
  let segments := (Text.splitOn '/' glob).filter (· ≠ [])
  let literal := segments.dropLast.takeWhile fun segment => !segment.any isGlobMark
  let slash := if glob.head? == some '/' then ['/'] else []
  ⟨String.ofList (slash ++ Text.joinWith '/' literal)⟩

end InputPattern

namespace Expansion

/-! ## Globs -/

/-- Reads a glob. -/
def parseGlob (glob : List Char) : Except Failure (List Glob.Token) :=
  match Glob.parse glob with
  | .ok tokens => .ok tokens
  | .error e =>
    .error ⟨["invalid glob pattern '" ++ String.ofList glob ++ "'"], .glob (String.ofList glob) e⟩

/-- Puts a path where it belongs among paths sorted by display path. -/
def insertSorted (p : SourcePath) : List SourcePath → List SourcePath
  | [] => [p]
  | q :: rest =>
    if p.display < q.display then p :: q :: rest else q :: insertSorted p rest

/-- Sorts paths by display path. -/
def sortByDisplay : List SourcePath → List SourcePath :=
  List.foldr insertSorted []

/-- The display path of a file found below `walkRoot`: relative to the base
directory, unless the glob was absolute. -/
def displayOf (base : Path) (absolute : Bool) (file : Path) : String :=
  if absolute then file.normalText
  else match Path.componentsBehind? base file with
    | some components => Path.textOfComponents components
    | none => file.normalText

/-- The files below a directory, as `glob` would show them. A directory whose only
component is `-` stands for the standard input, and holds no files. -/
def filesFor (t : FileTree) (workingDir : Location) (base : Path) (glob : List Char) :
    List SourcePath :=
  let walkRoot := base.join (InputPattern.literalPrefix glob)
  match t.directory? workingDir walkRoot with
  | none => []
  | some directory =>
    if walkRoot.components = [.name "-"] then []
    else (t.visibleFiles directory).map fun names =>
      let file := names.foldl (fun path name => path.join ⟨name⟩) walkRoot
      ⟨displayOf base (glob.head? == some '/') file, file⟩

/-! ## Patterns applied in order -/

/-- The files that a pattern adds, in order. -/
def found (t : FileTree) (workingDir : Location) (base : Path) :
    InputPattern → Except Failure (List SourcePath)
  | .exclude _ => .ok []
  | .file path =>
    let location := base.join ⟨String.ofList path⟩
    if t.isFile workingDir location then
      .ok [⟨Path.normalText ⟨String.ofList path⟩, location⟩]
    else .ok []
  | .glob glob => do
    let tokens ← parseGlob glob
    let files := (filesFor t workingDir base glob).filter fun file =>
      Glob.accepts tokens file.display
    .ok (sortByDisplay files)

/-- Adds files whose display paths are new. -/
def addNew (matched files : List SourcePath) : List SourcePath :=
  files.foldl (fun matched file =>
    if matched.any fun other => other.display == file.display then matched
    else matched ++ [file]) matched

/-- Applies one pattern to what was matched so far. -/
def applyPattern (t : FileTree) (workingDir : Location) (base : Path) (matched : List SourcePath)
    (pattern : InputPattern) : Except Failure (List SourcePath) :=
  match pattern with
  | .exclude glob => do
    let tokens ← parseGlob glob
    .ok (matched.filter fun file => !Glob.accepts tokens file.display)
  | pattern => (found t workingDir base pattern).map (addNew matched)

/-- The source files that patterns stand for, seen from a base directory. -/
def expand (t : FileTree) (workingDir : Location) (base : Path) (patterns : List String) :
    Except Failure (List SourcePath) :=
  patterns.foldlM (fun matched pattern =>
    applyPattern t workingDir base matched (.ofText pattern.toList)) []

/-! ## What is reported -/

/-- The event that reports a pattern without a match. -/
def unmatchedEvent (pattern : String) : Log.Event :=
  ⟨.debug, .expansion, "pattern matched no files", [("pattern", .bare pattern)]⟩

/-- The events that applying patterns reports, up to the first malformed one. -/
def events (t : FileTree) (workingDir : Location) (base : Path) : List String → List Log.Event
  | [] => []
  | pattern :: rest =>
    match InputPattern.ofText pattern.toList with
    | .exclude glob =>
      match parseGlob glob with
      | .ok _ => events t workingDir base rest
      | .error _ => []
    | wanted =>
      match found t workingDir base wanted with
      | .ok [] => unmatchedEvent pattern :: events t workingDir base rest
      | .ok _ => events t workingDir base rest
      | .error _ => []

end Expansion

end ModuleBundler
