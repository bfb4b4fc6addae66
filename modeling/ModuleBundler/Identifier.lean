/-
# ModuleBundler.Identifier -- module identifiers from file paths

A module is named after the path of its file: the part behind the module root,
without the extension. With a root, that part starts behind the first occurrence
of the root in the path, wherever it stands; without one it starts behind the
first `/`. The extension is what follows the last `.` of that part, so a dot in
front of the root is not one.

The name is not checked: it may be empty, or hold characters that are not legal
in a module name.
-/

import ModuleBundler.Text.Search

namespace ModuleBundler

/-- The name of a module. -/
structure Identifier where
  text : String
  deriving DecidableEq, Repr

/-- The module root does not occur in the path that should be named. -/
structure RootMissing where
  root : String
  path : String
  deriving DecidableEq, Repr

namespace RootMissing

/-- The wording of the error. -/
def message (e : RootMissing) : String :=
  "module root '" ++ e.root ++ "' does not occur in path '" ++ e.path ++ "'"

end RootMissing

namespace Identifier

/-- The part of a path behind the module root, or behind the first `/` where no
root is set; a path without a `/` is taken whole. -/
def partBehind? (root : Option (List Char)) (path : List Char) : Option (List Char) :=
  match root with
  | some (c :: rest) => (Text.splitFirst? (c :: rest) path).map Prod.snd
  | _ =>
    match Text.splitFirst? ['/'] path with
    | some pieces => some pieces.2
    | none => some path

/-- A file name, or path, without its extension. -/
def dropExtension (part : List Char) : List Char :=
  (Text.beforeLast? '.' part).getD part

/-- The identifier of the file at `path`. An empty root is no root. -/
def ofPath (root : Option String) (path : String) : Except RootMissing Identifier :=
  match partBehind? (root.map String.toList) path.toList with
  | some part => .ok ⟨String.ofList (dropExtension part)⟩
  | none => .error ⟨root.getD "", path⟩

end Identifier

end ModuleBundler
