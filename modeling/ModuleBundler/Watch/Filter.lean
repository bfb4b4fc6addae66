/-
# ModuleBundler.Watch.Filter -- which changes matter

While a run watches a directory, it is told of changes there. A change matters
if something was created, modified or removed at a path that is neither a bundle
file nor hidden. A path is hidden if one of its names below the watched directory
starts with a dot; the names of that directory itself do not count.

Paths are compared by their components.
-/

import ModuleBundler.Log
import ModuleBundler.Path

namespace ModuleBundler.Watch

/-- What happened to a file. -/
inductive ChangeKind where
  | any
  | access
  | create
  | modify
  | remove
  | other
  deriving DecidableEq, Repr

/-- Something that the run is told. -/
inductive Signal where
  | change (kind : ChangeKind) (paths : List Path)
  /-- Watching went wrong; nothing is known to have changed. -/
  | problem (message : String)
  deriving DecidableEq, Repr

/-- What is watched. -/
structure Scope where
  /-- The watched directory. -/
  root : Path
  /-- The files that the run writes itself. -/
  outputs : List Path
  deriving DecidableEq, Repr

namespace Scope

/-- Whether a path has a hidden name below the watched directory. A path that is
not below it is looked at as a whole. -/
def isHidden (s : Scope) (p : Path) : Bool :=
  ((Path.componentsBehind? s.root p).getD p.components).any Path.Component.isHidden

/-- Whether a path is one of the files that the run writes itself. -/
def isOutput (s : Scope) (p : Path) : Bool :=
  s.outputs.any fun output => output.sameComponents p

/-- Whether a kind of change can matter. -/
def isContentChange (kind : ChangeKind) : Bool :=
  kind == .create || kind == .modify || kind == .remove

/-- Whether a signal asks for a rebuild. -/
def isRelevant (s : Scope) : Signal → Bool
  | .change kind paths =>
    isContentChange kind && paths.any fun p => !s.isOutput p && !s.isHidden p
  | .problem _ => false

/-- The events that a signal reports. -/
def events : Signal → List Log.Event
  | .change _ _ => []
  | .problem message => [⟨.warn, .watching, "watch error", [("error", .bare message)]⟩]

end Scope

end ModuleBundler.Watch
