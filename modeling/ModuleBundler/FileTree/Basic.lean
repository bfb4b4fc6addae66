/-
# ModuleBundler.FileTree.Basic -- directories, files and links as one value

A file tree maps locations to what stands there. A location is the list of names
from the root directory down, without `.` or `..`; the root directory itself is
always there. A tree holds each location once, and no location with a part that is
no name. Every name on the way to an entry is a directory of its own in a tree built
through this library's operations.

A file holds text, or bytes that are not UTF-8: `Content.ofBytes` decides which.
Putting a node at a location changes what a look-up finds there, and nothing else
(`lookup_insert`).
-/

import ModuleBundler.Keyed
import ModuleBundler.Path
import ModuleBundler.Text.Utf8

namespace ModuleBundler

/-- The names on the way from the root directory to an entry. -/
abbrev Location := List String

/-- What a file holds. -/
inductive Content where
  | text (text : String)
  /-- Bytes that are not UTF-8. -/
  | binary (bytes : List UInt8)
  deriving DecidableEq, Repr

namespace Content

/-- Content given by its bytes. -/
def ofBytes (bytes : List UInt8) : Content :=
  match Text.ofBytes? bytes with
  | some decoded => .text decoded
  | none => .binary bytes

/-- The bytes of a file. -/
def toBytes : Content → List UInt8
  | .text t => t.toUTF8.toList
  | .binary bytes => bytes

/-- No byte of a file is lost. -/
@[simp] theorem toBytes_ofBytes (bytes : List UInt8) : (ofBytes bytes).toBytes = bytes := by
  unfold ofBytes
  split
  · rename_i h
    exact Text.ofBytes?_eq_some_iff.mp h
  · rfl

/-- A file that is written as text holds that text. -/
@[simp] theorem ofBytes_toUTF8 (text : String) : ofBytes text.toUTF8.toList = .text text := by
  simp only [ofBytes, Text.ofBytes?_eq_some_iff.mpr rfl]

end Content

/-- What stands at a location. -/
inductive Node where
  | file (content : Content)
  | directory
  /-- A symbolic link, with its target as written. -/
  | link (target : String)
  deriving DecidableEq, Repr

namespace Node

/-- Whether a node is a regular file. -/
def isFile : Node → Bool
  | file _ => true
  | _ => false

/-- Whether a node is a directory. -/
def isDirectory : Node → Bool
  | directory => true
  | _ => false

end Node

/-- A location every part of which is a name. -/
def FileTree.IsNamed (l : Location) : Prop := ∀ name ∈ l, Path.IsName name

instance : DecidablePred FileTree.IsNamed := fun l =>
  inferInstanceAs (Decidable (∀ name ∈ l, Path.IsName name))

/-- The entries below the root directory. -/
@[ext] structure FileTree where
  entries : List (Location × Node)
  /-- No location stands for two entries. -/
  distinct : (entries.map Prod.fst).Nodup := by decide +kernel
  /-- Files and directories have names. -/
  named : ∀ entry ∈ entries, FileTree.IsNamed entry.1 := by decide +kernel
  deriving Repr

namespace FileTree

/-- The tree that holds only the root directory. -/
def empty : FileTree := { entries := [] }

/-- What stands at a location; links are not followed. -/
def lookup (t : FileTree) (location : Location) : Option Node :=
  if location = [] then some .directory
  else t.entries.lookup location

/-- Puts a node at a location, in place of what stood there. Where a part of the
location is no name, nothing can be put. -/
def insert (t : FileTree) (location : Location) (node : Node) : FileTree :=
  if h : IsNamed location then
    { entries := Keyed.put t.entries location node
      distinct := Keyed.put_nodup t.distinct location node
      named := by
        intro entry hentry
        rcases Keyed.eq_or_mem_of_mem_put hentry with rfl | hold
        · exact h
        · exact t.named entry hold }
  else t

/-- What was put at a location is found there, and no other look-up changes. -/
theorem lookup_insert (t : FileTree) {l : Location} (m : Location) (node : Node) (h : l ≠ [])
    (hnamed : IsNamed l) :
    (t.insert l node).lookup m = if m = l then some node else t.lookup m := by
  rw [insert, dif_pos hnamed, lookup, lookup]
  by_cases hm : m = []
  · have hml : m ≠ l := fun hml => h (hml ▸ hm)
    rw [if_pos hm, if_pos hm, if_neg hml]
  · rw [if_neg hm, if_neg hm]
    exact Keyed.lookup_put t.entries l m node

/-- The entries that are kept of a tree. -/
def filter (t : FileTree) (keeps : Location × Node → Bool) : FileTree where
  entries := t.entries.filter keeps
  distinct := t.distinct.sublist (List.filter_sublist.map Prod.fst)
  named := fun entry hentry => t.named entry (List.mem_filter.mp hentry).1

/-- Takes away a location and everything below it. -/
def erase (t : FileTree) (location : Location) : FileTree :=
  t.filter fun entry => !location.isPrefixOf entry.1

/-- Moves everything at and below one location to another. -/
def move (t : FileTree) (source target : Location) : FileTree :=
  let moved := t.entries.filter fun entry => source.isPrefixOf entry.1
  moved.foldl
    (fun t entry => t.insert (target ++ entry.1.drop source.length) entry.2)
    ((t.erase source).erase target)

/-- The locations at which two trees differ. -/
def differences (t u : FileTree) : List Location :=
  ((t.entries ++ u.entries).map Prod.fst).eraseDups.filter fun l => t.lookup l ≠ u.lookup l

/-- The text of an absolute path to a location. -/
def pathOf (location : Location) : Path :=
  ⟨"/" ++ "/".intercalate location⟩

end FileTree

end ModuleBundler
