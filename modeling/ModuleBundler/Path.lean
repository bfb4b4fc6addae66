/-
# ModuleBundler.Path -- paths as they are written

A path is kept as the text it was given as, because that text is what messages
and reports print. Its meaning is its list of components: repeated and trailing
slashes, and `.` anywhere but at the very front, are silent, while `..` is a
component like any other. Two paths that differ only in silent parts have the
same components, and `normalText` writes the components in one way.

Nothing here looks at a file system: `a/../b` and `b` stay different paths.
-/

import ModuleBundler.Text.Search

namespace ModuleBundler

/-- A path, as the text it was given as. -/
structure Path where
  text : String
  deriving DecidableEq, Repr

namespace Path

/-- One component of a path. -/
inductive Component where
  /-- The `/` that an absolute path starts with. -/
  | root
  /-- A `.` at the front of a relative path. -/
  | here
  /-- A `..`. -/
  | up
  | name (text : String)
  deriving DecidableEq, Repr

/-! ## Components -/

/-- The pieces of the text between its slashes, the empty ones included. -/
def segments (p : Path) : List (List Char) :=
  Text.splitOn '/' p.text.toList

/-- Whether a piece behind the first slash stands for no component. -/
def isSilent (segment : List Char) : Bool :=
  segment == [] || segment == ['.']

/-- The component that a piece which is not silent stands for. -/
def component (segment : List Char) : Component :=
  if segment = ['.', '.'] then .up else .name (String.ofList segment)

/-- What the piece before the first slash stands for; `followed` says whether a
slash follows it. -/
def leading (segment : List Char) (followed : Bool) : List Component :=
  if segment = [] then (if followed then [.root] else [])
  else if segment = ['.'] then [.here]
  else [component segment]

/-- The components of a path. -/
def components (p : Path) : List Component :=
  match p.segments with
  | [] => []
  | first :: rest =>
    leading first (!rest.isEmpty) ++ (rest.filter (!isSilent ·)).map component

/-- Whether a path starts at the root directory. -/
def isAbsolute (p : Path) : Bool :=
  p.text.toList.head? == some '/'

/-- Whether two paths have the same components. -/
def sameComponents (p q : Path) : Bool :=
  p.components == q.components

/-- The components of `p` behind those of `base`, if `p` starts with those. -/
def componentsBehind? (base p : Path) : Option (List Component) :=
  if base.components.isPrefixOf p.components then
    some (p.components.drop base.components.length)
  else none

/-! ## The normal text of a path -/

/-- Adds one segment behind the text written so far. -/
def pushSegment (written segment : List Char) : List Char :=
  if written = [] || written.getLast? == some '/' then written ++ segment
  else written ++ '/' :: segment

/-- Writes one more component behind the text written so far. -/
def pushComponent (written : List Char) : Component → List Char
  | .root => written ++ ['/']
  | .here => written
  | .up => pushSegment written ['.', '.']
  | .name text => pushSegment written text.toList

/-- The text that writes a list of components with single slashes and without `.`. -/
def textOfComponents (components : List Component) : String :=
  String.ofList (components.foldl pushComponent [])

/-- A path in normal form: no empty segment and no `.`, a leading `/` and every
`..` kept where they stood. -/
def normalText (p : Path) : String :=
  textOfComponents p.components

/-! ## Joining -/

/-- The path `p` as seen from `base`: an absolute `p` stands for itself, and any
other is put behind `base` and a slash, unless `base` is empty or ends in one. -/
def join (base p : Path) : Path :=
  if p.isAbsolute then p
  else if base.text.toList = [] || base.text.toList.getLast? == some '/' then
    ⟨base.text ++ p.text⟩
  else ⟨base.text ++ "/" ++ p.text⟩

/-! ## Parents -/

/-- The text of a path made of its first piece and of pieces behind it, last one first. -/
def ofReversed (first : List Char) (reversed : List (List Char)) : Path :=
  if first = [] && reversed.isEmpty then ⟨"/"⟩
  else ⟨String.ofList (Text.joinWith '/' (first :: reversed.reverse))⟩

/-- The directories that enclose what `first` and the pieces behind it name, the
innermost first and including the path itself. The pieces come last one first. -/
def upFrom (first : List Char) : List (List Char) → List Path
  | [] => if first = [] then [⟨"/"⟩] else [⟨String.ofList first⟩, ⟨""⟩]
  | segment :: before =>
    if isSilent segment then upFrom first before
    else ofReversed first (segment :: before) :: upFrom first before

/-- The proper ancestors of a path, the nearest first. An absolute path ends at
`/`, a relative one at the empty path; these two have none. -/
def parents (p : Path) : List Path :=
  match p.segments with
  | [] => []
  | first :: rest =>
    match rest.reverse.dropWhile isSilent with
    | [] => if first = [] then [] else [⟨""⟩]
    | _ :: before => upFrom first before

/-- The path without its last component. -/
def parent? (p : Path) : Option Path :=
  p.parents.head?

/-! ## Names -/

/-- What a file or directory can be called: a text that is not empty and holds no slash. -/
structure IsName (name : String) : Prop where
  ne_empty : name ≠ ""
  no_slash : '/' ∉ name.toList

instance : DecidablePred IsName := fun name =>
  decidable_of_iff (name ≠ "" ∧ '/' ∉ name.toList)
    ⟨fun h => ⟨h.1, h.2⟩, fun h => ⟨h.ne_empty, h.no_slash⟩⟩

/-- Whether a file name starts with a dot. -/
def isHiddenName (name : String) : Bool :=
  name.toList.head? == some '.'

/-- Whether a component is a name that starts with a dot; `.` and `..` are no names. -/
def Component.isHidden : Component → Bool
  | .name text => isHiddenName text
  | _ => false

end Path

end ModuleBundler
