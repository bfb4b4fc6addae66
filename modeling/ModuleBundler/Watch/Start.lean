/-
# ModuleBundler.Watch.Start -- setting up the watch

The watched directory, and the bundle files that are there when watching starts,
are known by their locations; a bundle file that is not there yet is known by
the path it was given as.

A change becomes a signal about every path that it is seen at, and may change which
directories are watched from then on.
-/

import ModuleBundler.Session
import ModuleBundler.Watch.Coverage
import ModuleBundler.Watch.Loop

namespace ModuleBundler.Watch

/-- A watch that was started. -/
structure Watcher where
  scope : Scope
  /-- The directories that are watched. -/
  coverage : Coverage
  loop : Loop := {}

/-- The path of the location that a path leads to, or the path itself. -/
def canonical (t : FileTree) (workingDir : Location) (p : Path) : Path :=
  match t.find workingDir p with
  | .ok (location, _) => FileTree.pathOf location
  | .error _ => p

/-- The event that reports the start of a watch. -/
def startEvent (root : Path) : Log.Event :=
  ⟨.info, .watching, "watching for changes", [("root", .bare root.text)]⟩

/-- Starts to watch a directory. -/
def start (root : Path) (outputs : List Path) : Job Watcher := do
  let s ← get
  match s.tree.find s.workingDir root with
  | .error e => Job.fail ⟨["failed to resolve watch root " ++ root.text], .io e⟩
  | .ok (location, _) => do
    let path := FileTree.pathOf location
    Job.report (startEvent path)
    return {
      scope := ⟨path, outputs.map (canonical s.tree s.workingDir)⟩
      coverage := Coverage.ofPath s.tree location }

/-- Tells the watch of a change: the signals that arrive, and the directories
that are watched from then on. -/
def Watcher.notice (w : Watcher) (changed : FileTree.Changed) : Watcher :=
  { w with
    coverage := w.coverage.after changed
    loop := (w.coverage.signals changed).foldl Loop.arrive w.loop }

/-- The event that reports a rebuild that failed. -/
def failedEvent (messages : List String) : Log.Event :=
  ⟨.error, .watching, "rebuild failed", [("error", .bare (": ".intercalate messages))]⟩

/-- Applies changes back to back below a base directory, and tells the watch of
them: the answer says whether a rebuild starts. -/
def Watcher.observe (w : Watcher) (base : Location) (changes : List Change) :
    StateM Session (Watcher × Bool) := do
  let (s, w) := changes.foldl (fun (done : Session × Watcher) change =>
    let changed := done.1.tree.change base change
    (done.1.changed changed, done.2.notice changed)) (← get, w)
  set s
  let loop := w.loop.settle w.scope
  return ({ w with loop := loop }, loop.rebuilding)

/-- The watch after a rebuild, which left one tree of another. What the rebuild
changed is noticed like any other change, and waits for the next burst. -/
def Watcher.rebuilt (w : Watcher) (before after : FileTree) : Watcher :=
  let w := { w with loop := w.loop.finish?.getD w.loop }
  w.notice (before.becoming after)

end ModuleBundler.Watch
