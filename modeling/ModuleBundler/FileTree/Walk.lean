/-
# ModuleBundler.FileTree.Walk -- the files below a directory

A walk lists every regular file below a directory, by the names that lead to it
from there. A file is passed over when one of those names is hidden; the names
of the directory itself and of those above it do not matter. Links below the
directory are not followed, and are not files.
-/

import ModuleBundler.FileTree.Resolve

namespace ModuleBundler.FileTree

/-- The names that lead from a directory to a location below it. -/
def namesBelow? (directory location : Location) : Option (List String) :=
  if directory.isPrefixOf location && directory.length < location.length then
    some (location.drop directory.length)
  else none

/-- The regular files below a directory that a walk lists. -/
def visibleFiles (t : FileTree) (directory : Location) : List (List String) :=
  t.entries.filterMap fun entry =>
    match namesBelow? directory entry.1, entry.2 with
    | some names, .file _ => if names.any Path.isHiddenName then none else some names
    | _, _ => none

end ModuleBundler.FileTree
