/-
# ModuleBundler.Watch.Coverage -- which directories are watched

Every directory is watched by itself, for what happens to its entries. A watch on a
directory is a mark: it remembers the path that led there last, and stays with the
directory when that is moved elsewhere. A directory has one mark at most. The first
directory of a watch also sees what happens to itself.

Beside the marks stands a record of every path at which one was set. Two paths may
lead to the same directory, and so to the same mark; where one of them vanishes, the
mark is taken away, and the other path no longer leads to any.

Marks are set by walking down from a path, through directories and links alike, but
not through a link back to a directory that the walk is in already
(`Coverage.walk`). Where an entry of a recorded path vanishes, its mark and those
set through its path are taken away; where a directory appears, the walk goes on
from there. A link that appears leads to no marks.
-/

import ModuleBundler.FileTree.Change
import ModuleBundler.Watch.Filter

namespace ModuleBundler.Watch

/-- A directory, and a path that leads there. -/
structure Way where
  /-- The names of the absolute path. -/
  path : Location
  /-- Where the directory is. -/
  place : Location
  deriving DecidableEq, Repr

/-- A watch on one directory. -/
structure Mark extends Way where
  /-- What tells the mark from those that were there before. -/
  number : Nat
  /-- Whether the directory sees what happens to itself. -/
  seesItself : Bool
  deriving DecidableEq, Repr

/-- A path at which a mark was set. -/
structure Record where
  path : Location
  /-- The number of the mark, which may be gone. -/
  number : Nat
  seesItself : Bool
  deriving DecidableEq, Repr

/-- The directories that are watched. -/
structure Coverage where
  marks : List Mark := []
  records : List Record := []
  /-- The number of the next mark. -/
  next : Nat := 0
  deriving DecidableEq, Repr

namespace Coverage

/-! ## Walking down -/

/-- The names and nodes of the entries of a directory. -/
def entriesOf (t : FileTree) (directory : Location) : List (String × Node) :=
  t.entries.filterMap fun entry =>
    match entry.1.getLast? with
    | some name => if entry.1.dropLast == directory then some (name, entry.2) else none
    | none => none

/-- The directory that a path below a location leads to. -/
def directoryAt? (t : FileTree) (start path : Location) : Option Location :=
  match t.follow .look FileTree.maxLinks start (path.map Step.name) with
  | .ok (.found place .directory) => some place
  | _ => none

/-- The ways to a directory and to all below it. `trail` holds the directories
that the walk is in; a link back to one of these is not followed. The number bounds
the depth. -/
def walk (t : FileTree) : Nat → List Location → Way → List Way
  | 0, _, w => [w]
  | depth + 1, trail, w =>
    let trail := w.place :: trail
    w :: (entriesOf t w.place).flatMap fun entry =>
      match directoryAt? t w.place [entry.1] with
      | some place =>
        if !entry.2.isDirectory && trail.contains place then []
        else walk t depth trail ⟨w.path ++ [entry.1], place⟩
      | none => []

/-- The ways that a walk from a path finds. -/
def waysFrom (t : FileTree) (path : Location) : List Way :=
  match directoryAt? t [] path with
  | some place =>
    let count := t.entries.length + 1
    walk t (count * count) [] ⟨path, place⟩
  | none => []

/-! ## Setting marks and taking them away -/

/-- The record of a path. -/
def record? (c : Coverage) (path : Location) : Option Record :=
  c.records.find? fun r => r.path == path

/-- The mark of a directory. -/
def markAt? (c : Coverage) (place : Location) : Option Mark :=
  c.marks.find? fun m => m.place == place

/-- Sets a mark. That of a directory which has one is given the new path; whether it
sees itself is decided anew unless the path is recorded already. -/
def set (c : Coverage) (seesItself : Bool) (w : Way) : Coverage :=
  let before := c.record? w.path
  let sees := seesItself || (before.map Record.seesItself).getD false
  let others := c.records.filter fun r => r.path != w.path
  match c.markAt? w.place with
  | some old =>
    { c with
      marks := c.marks.map fun m =>
        if m.place == w.place then ⟨w, m.number, sees || (before.isSome && m.seesItself)⟩ else m
      records := others ++ [⟨w.path, old.number, sees⟩] }
  | none =>
    { marks := c.marks ++ [⟨w, c.next, sees⟩]
      records := others ++ [⟨w.path, c.next, sees⟩]
      next := c.next + 1 }

/-- Takes away the mark that was set at a path, and those that were set through that
path. Nothing but the record goes where that mark is gone already. -/
def forget (c : Coverage) (path : Location) : Coverage :=
  match c.record? path with
  | none => c
  | some r =>
    let records := c.records.filter fun r => r.path != path
    let isOwn (m : Mark) : Bool := m.number == r.number
    let isBelow (m : Mark) : Bool := !isOwn m && path.isPrefixOf m.path
    if c.marks.any isOwn then
      { c with
        marks := c.marks.filter fun m => !isOwn m && !isBelow m
        records := records.filter fun r => !c.marks.any fun m => isBelow m && m.path == r.path }
    else { c with records := records }

/-- The marks of a watch that starts at a path. -/
def ofPath (t : FileTree) (path : Location) : Coverage :=
  match waysFrom t path with
  | [] => {}
  | first :: rest => rest.foldl (set · false) (set {} true first)

/-! ## What is seen -/

/-- The path at which what happens to an entry of a directory is seen. -/
def pathOfEntry? (c : Coverage) (l : Location) : Option Location :=
  match l.getLast? with
  | some name => (c.markAt? l.dropLast).map fun m => m.path ++ [name]
  | none => none

/-- The paths of the directories that see themselves go away. -/
def endings (c : Coverage) (changed : FileTree.Changed) : List Location :=
  c.marks.filterMap fun m =>
    if m.seesItself && (changed.whereIs m.place).isNone then some m.path else none

/-- The paths of the directories that see themselves move. -/
def moves (c : Coverage) (changed : FileTree.Changed) : List Location :=
  c.marks.filterMap fun m =>
    if m.seesItself && changed.happenings.contains (.departed m.place) then some m.path else none

/-- What a happening is to those who watch. -/
def kindOf : FileTree.Happening → ChangeKind
  | .appeared _ _ => .create
  | .altered _ => .modify
  | .vanished _ => .remove
  | .departed _ => .modify

/-- The signal of a change at a path. -/
def signal (kind : ChangeKind) (path : Location) : Signal :=
  .change kind [FileTree.pathOf path]

/-- The signals of what happened. -/
def signals (c : Coverage) (changed : FileTree.Changed) : List Signal :=
  (changed.happenings.filterMap fun happening =>
    (c.pathOfEntry? happening.location).map (signal (kindOf happening)))
    ++ (c.moves changed).map (signal .modify) ++ (c.endings changed).map (signal .remove)

/-- The paths of entries that are no longer where they were. -/
def losses (c : Coverage) (happenings : List FileTree.Happening) : List Location :=
  happenings.filterMap fun happening =>
    match happening with
    | .vanished l => c.pathOfEntry? l
    | .departed l => c.pathOfEntry? l
    | _ => none

/-- The paths of directories that appeared in one of a recorded path. -/
def gains (c : Coverage) (happenings : List FileTree.Happening) : List Location :=
  happenings.filterMap fun happening =>
    match happening with
    | .appeared l true => (c.pathOfEntry? l).filter fun path => (c.record? path.dropLast).isSome
    | _ => none

/-- The marks after a change: those of what was moved follow it, those of what
vanished are taken away, and those of new directories are set. -/
def after (c : Coverage) (changed : FileTree.Changed) : Coverage :=
  let moved := { c with
    marks := c.marks.filterMap fun m =>
      (changed.whereIs m.place).map fun place => { m with place := place } }
  let kept := (c.losses changed.happenings ++ c.endings changed).foldl forget moved
  (c.gains changed.happenings).foldl (fun c path => (waysFrom changed.tree path).foldl (set · false) c)
    kept

end Coverage

end ModuleBundler.Watch
