/-
# ModuleBundler.Compile -- from targets to written bundles

A target is compiled by expanding its patterns, reading and bundling the files in
order, and writing the result to its destination. Nothing is written before all
files were read and named. Targets are compiled one after the other; the first
failure ends the run, and what was written before it stays.
-/

import ModuleBundler.Config.Basic
import ModuleBundler.Expansion
import ModuleBundler.Session
import ModuleBundler.Target

namespace ModuleBundler

/-- A bundle that was written. -/
structure Compiled where
  target : String
  output : Path
  content : String
  files : Nat
  modules : Nat
  deriving DecidableEq, Repr

namespace Compile

/-! ## Reading and writing -/

/-- Reads a source file. -/
def readSource (t : FileTree) (workingDir : Location) (p : SourcePath) :
    Except Failure SourceFile :=
  match t.readText workingDir p.location with
  | .ok content => .ok ⟨p, content⟩
  | .error e => .error ⟨["failed to read source file " ++ p.location.text], .io e⟩

/-- Makes the directory that a file goes to, and those above it. -/
def makeParent (t : FileTree) (workingDir : Location) (p : Path) :
    FileTree × Except Failure Unit :=
  match p.parent? with
  | none => (t, .ok ())
  | some parent =>
    let (t, made) := t.makeDirectories workingDir parent
    (t, made.mapError fun e => ⟨["failed to create bundle directory: " ++ parent.text], .io e⟩)

/-- Writes a bundle, in place of what the file held, and makes the directories
that it needs. Directories that were made stay when the file cannot be written. -/
def writeBundle (p : Path) (content : String) : Job Unit := do
  let s ← get
  let (t, made) := makeParent s.tree s.workingDir p
  set { s with tree := t }
  Job.ofExcept made
  match t.writeFile s.workingDir p (.text content) with
  | .ok t => modify fun s => { s with tree := t }
  | .error e => Job.fail ⟨["failed to write bundle to " ++ p.text], .io e⟩

/-! ## Bundling -/

/-- Reads source files and adds them to a bundle, until one fails. -/
def bundleSources (target : String) (o : Options) : Bundle → List SourcePath → Job Bundle
  | b, [] => pure b
  | b, input :: rest => do
    let s ← get
    let file ← Job.ofExcept (readSource s.tree s.workingDir input)
    (b.pushEvents o file).forM Job.report
    match b.push o file with
    | (.ok _, b) => bundleSources target o b rest
    | (.error e, _) =>
      Job.fail ⟨["failed to compile target '" ++ target ++ "'"], .unnamedModule input.location e⟩

/-- The event that reports a written bundle. -/
def writtenEvent (target : String) (b : Bundle) (output : Path) : Log.Event :=
  ⟨.info, .compilation, "bundle written",
    [("bundle", .quoted target), ("files", .bare (Nat.repr b.files)),
      ("modules", .bare (Nat.repr b.modules)), ("output", .bare output.text)]⟩

/-- Bundles source files and writes the bundle. -/
def sources (target : String) (inputs : List SourcePath) (o : Options) (output : Path) :
    Job Compiled := do
  let b ← bundleSources target o {} inputs
  writeBundle output b.content
  Job.report (writtenEvent target b output)
  return ⟨target, output, b.content, b.files, b.modules⟩

/-- Expands the patterns of a target. -/
def inputsOf (c : Config) (target : Target) : Job (List SourcePath) := do
  let s ← get
  (Expansion.events s.tree s.workingDir c.baseDir target.patterns).forM Job.report
  Job.ofExcept (withContext ("failed to expand inputs of target '" ++ target.name ++ "'")
    (Expansion.expand s.tree s.workingDir c.baseDir target.patterns))

/-- Compiles one target. -/
def target (c : Config) (t : Target) : Job Compiled := do
  match t.dest with
  | none => Job.fail ⟨[], .missingDestination t.name⟩
  | some dest => do
    let inputs ← inputsOf c t
    sources t.name inputs (t.options c.bundle) (c.resolvePath dest)

/-- The event that reports a target that is passed over. -/
def skippedEvent (t : Target) : Log.Event :=
  ⟨.warn, .compilation, "skipping target without dest", [("bundle", .bare t.name)]⟩

/-- Compiles targets one after the other, passing over those without a destination. -/
def targets (c : Config) : List Target → Job (List Compiled)
  | [] => pure []
  | t :: rest => do
    if t.dest.isNone then
      Job.report (skippedEvent t)
      targets c rest
    else
      let result ← target c t
      return result :: (← targets c rest)

end Compile

end ModuleBundler
