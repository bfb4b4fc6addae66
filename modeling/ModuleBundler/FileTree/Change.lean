/-
# ModuleBundler.FileTree.Change -- changes made from outside

What others do to the files while a run goes on: a file, link or directory is
put somewhere, removed or renamed, or a file is read. A change names a path below
a base directory. `FileTree.change` applies it, and tells what happened to which
entries of directories, and what became of every location.
-/

import ModuleBundler.FileTree.Edit

namespace ModuleBundler

/-- A change made from outside. -/
inductive Change where
  | put (path : String) (node : Node)
  | remove (path : String)
  | rename (source target : String)
  /-- A file is read, which changes nothing. -/
  | inspect (path : String)
  deriving DecidableEq, Repr

namespace FileTree

/-- Every location on the way to a location, the nearest to the root directory first. -/
def waypoints (location : Location) : List Location :=
  (List.range location.length).map fun n => location.take (n + 1)

/-- Where a path below a base directory leads, its last name taken as it is. A
directory on the way that is missing counts as one that is there. -/
def placeOf (t : FileTree) (base : Location) (followLast : Bool) (path : String) : Location :=
  let step (at_ : Location) (isLast : Bool) : Step → Location
    | .here => at_
    | .slash => at_
    | .up => at_.dropLast
    | .name n =>
      match t.lookup (at_ ++ [n]) with
      | some (.link _) =>
        if isLast && !followLast then at_ ++ [n]
        else match t.follow .look maxLinks at_ [.name n] with
          | .ok (.found location _) => location
          | .ok (.vacant location) => location
          | .error _ => at_ ++ [n]
      | _ => at_ ++ [n]
  let p : Path := ⟨path⟩
  let steps := p.steps
  let start := if p.isAbsolute then [] else base
  (steps.zipIdx).foldl (fun at_ entry => step at_ (entry.2 + 1 == steps.length) entry.1) start

/-- Makes a location and those on the way to it directories, where nothing is. -/
def ensureLocation (t : FileTree) (location : Location) : FileTree :=
  (waypoints location).foldl (fun t l => if (t.lookup l).isSome then t else t.insert l .directory) t

/-- The locations on the way to a location at which nothing is. -/
def missing (t : FileTree) (location : Location) : List Location :=
  (waypoints location).filter fun l => (t.lookup l).isNone

/-- Something that happens to an entry of a directory. -/
inductive Happening where
  | appeared (location : Location) (isDirectory : Bool)
  | altered (location : Location)
  | vanished (location : Location)
  /-- The entry is at another location from now on. -/
  | departed (location : Location)
  deriving DecidableEq, Repr

/-- The location of the entry that something happens to. -/
def Happening.location : Happening → Location
  | appeared l _ => l
  | altered l => l
  | vanished l => l
  | departed l => l

/-- A tree after a change. -/
structure Changed where
  tree : FileTree
  /-- What happened, in order. -/
  happenings : List Happening := []
  /-- What was at a location is at another now, or no longer there. -/
  whereIs : Location → Option Location := some

/-- That directories are made. -/
def made (locations : List Location) : List Happening :=
  locations.map fun l => .appeared l true

/-- What happens to an entry that is put in place of another. -/
def replacement (location : Location) (before : Option Node) (after : Node) : List Happening :=
  match before, after with
  | none, node => [.appeared location node.isDirectory]
  | some (.file _), .file _ => [.altered location]
  | some _, node => [.vanished location, .appeared location node.isDirectory]

/-- Puts a node at a location; directories on the way that are missing are made. -/
def putAt (t : FileTree) (location : Location) (node : Node) : Changed where
  tree := (t.ensureLocation location.dropLast).insert location node
  happenings :=
    made (t.missing location.dropLast) ++ replacement location (t.lookup location) node

/-- The locations at and below a location at which something is, the deepest first. -/
def occupied (t : FileTree) (location : Location) : List Location :=
  let below := (t.entries.map Prod.fst).filter location.isPrefixOf
  below.foldr (fun l sorted =>
    sorted.takeWhile (fun m => l.length < m.length) ++ l ::
      sorted.dropWhile fun m => l.length < m.length) []

/-- Applies a change below a base directory. -/
def change (t : FileTree) (base : Location) : Change → Changed
  | .put path (.file content) => t.putAt (t.placeOf base true path) (.file content)
  | .put path (.link target) => t.putAt (t.placeOf base false path) (.link target)
  | .put path .directory =>
    let location := t.placeOf base true path
    { tree := t.ensureLocation location, happenings := made (t.missing location) }
  | .remove path =>
    let location := t.placeOf base false path
    { tree := t.erase location
      happenings := (t.occupied location).map .vanished
      whereIs := fun l => if location.isPrefixOf l then none else some l }
  | .rename source target =>
    let source := t.placeOf base false source
    let target := t.placeOf base false target
    match t.lookup source with
    | some node =>
      { tree := (t.ensureLocation target.dropLast).move source target
        happenings := made (t.missing target.dropLast) ++
          [.departed source, .appeared target node.isDirectory]
        whereIs := fun l =>
          if source.isPrefixOf l then some (target ++ l.drop source.length)
          else if target.isPrefixOf l then none
          else some l }
    | none => { tree := t }
  | .inspect _ => { tree := t }

/-- The change of a tree into another that is not known in its steps: what differs
was put in place of what stood there, or is gone. -/
def becoming (t u : FileTree) : Changed where
  tree := u
  happenings := (t.differences u).flatMap fun l =>
    match u.lookup l with
    | some node => replacement l (t.lookup l) node
    | none => [.vanished l]
  whereIs := fun l => (u.lookup l).bind fun node => if node.isDirectory then some l else none

/-- The changes that turn one tree into another, by absolute paths. -/
def changesTo (t u : FileTree) : List Change :=
  (t.differences u).map fun location =>
    let path := (pathOf location).text
    match u.lookup location with
    | some node => .put path node
    | none => .remove path

/-- The locations below a base directory at which something other than a
directory is, as paths from there, sorted. -/
def listing (t : FileTree) (base : Location) : List String :=
  let below := t.entries.filterMap fun entry =>
    if base.isPrefixOf entry.1 && !entry.2.isDirectory then
      some ("/".intercalate (entry.1.drop base.length))
    else none
  below.foldr (fun path sorted =>
    sorted.takeWhile (· < path) ++ path :: sorted.dropWhile (· < path)) []

end FileTree

end ModuleBundler
