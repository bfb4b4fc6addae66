/-
# ModuleBundler.Compress -- compressing written bundles

Every target with a destination is a task: its bundle is compressed in place by
an external command. In the words of the command, `{src}` and `{dest}` stand for
the paths of the task. The tasks can also be listed, as JSON keyed by target.

Tasks are planned if compressing was asked for, or wired up by the global option;
both need a compress section.
-/

import ModuleBundler.Json
import ModuleBundler.Session
import ModuleBundler.Shell.Run
import ModuleBundler.Target

namespace ModuleBundler.Compress

/-! ## Tasks -/

/-- The compression of one bundle. -/
structure Task where
  name : String
  src : Path
  dest : Path
  deriving DecidableEq, Repr

/-- The task of a target, if it has a destination. -/
def Task.ofTarget? (t : Target) : Option Task :=
  t.dest.map fun dest => ⟨t.name, dest, dest⟩

/-- A task for every target with a destination, in order. -/
def tasks (b : BundleSection) : List Task :=
  (Target.all b).filterMap Task.ofTarget?

/-- The events that report the targets without a task. -/
def tasksEvents (b : BundleSection) : List Log.Event :=
  ((Target.all b).filter (·.dest.isNone)).map fun t =>
    ⟨.warn, .compression, "cannot add compress task: target has no dest", [("bundle", .bare t.name)]⟩

/-- Whether a run plans any tasks. -/
def isWanted (c : Config) (requested : Bool) : Bool :=
  requested || c.addsCompressTargets

/-- The tasks of a run. -/
def plan (c : Config) (requested : Bool) : Except ConfigError (List Task) :=
  if !isWanted c requested then .ok []
  else if c.compress.isNone then .error .missingCompressSection
  else .ok (tasks c.bundle)

/-- The events that planning reports. -/
def planEvents (c : Config) (requested : Bool) : List Log.Event :=
  if isWanted c requested && c.compress.isSome then tasksEvents c.bundle else []

/-- A task as JSON, without its name. -/
def Task.json (t : Task) : Json :=
  .object [("src", .string t.src.text), ("dest", .string t.dest.text)]

/-- The tasks as JSON, keyed by target. -/
def fragment (ts : List Task) : Json :=
  .ofEntries (ts.map fun t => (t.name, t.json))

/-! ## The command -/

/-- A command that compresses, and the directory it runs in. -/
structure Compressor where
  command : List String
  workingDir : Path
  deriving DecidableEq, Repr

namespace Compressor

/-- The compressor of a compress section. -/
def ofSection (section_ : CompressSection) (workingDir : Path) : Except ConfigError Compressor :=
  if section_.command.isEmpty then .error .emptyCompressCommand
  else .ok ⟨section_.command, workingDir⟩

/-- The place of the source path in a word. -/
def srcMark : List Char := "\x7bsrc\x7d".toList

/-- The place of the destination path in a word. -/
def destMark : List Char := "\x7bdest\x7d".toList

/-- A word of the command for a task: the source path is put in first, and the
destination path into what that gives. -/
def fill (t : Task) (word : String) : String :=
  String.ofList <| Text.replaceAll destMark t.dest.text.toList <|
    Text.replaceAll srcMark t.src.text.toList word.toList

/-- The command for a task. -/
def commandFor (c : Compressor) (t : Task) : List String :=
  c.command.map (fill t)

/-- The event that reports the start of a command. -/
def startEvent (t : Task) (program : String) : Log.Event :=
  ⟨.info, .compression, "compressing bundle", [("bundle", .bare t.name), ("program", .bare program)]⟩

/-- Runs the command for a task. -/
def run (c : Compressor) (t : Task) : Job Unit := do
  match c.commandFor t with
  | [] => return
  | program :: args => do
    Job.report (startEvent t program)
    let s ← get
    match Shell.run s.tree s.workingDir c.workingDir s.environment program args with
    | .error e => Job.fail ⟨["failed to spawn compress command: " ++ program], .io e⟩
    | .ok done => do
      set { s with
        tree := done.tree
        output := s.output ++ done.output
        notices :=
          if done.errors.isEmpty then s.notices else s.notices ++ [Notice.written done.errors] }
      if done.status.isSuccess then return
      else Job.fail ⟨[], .commandFailed t.name done.status⟩

end Compressor

end ModuleBundler.Compress
