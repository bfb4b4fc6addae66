/-
# ModuleBundler.Bundle -- files put together into one text

A bundle is built by adding files one after the other. A file that is no module,
or whose definition call already carries a name, is added unchanged. An anonymous
definition call is given the name of its module, and, where a variable name is
set, the function starts by setting that variable.

What a file contributes (`contribution`) depends on the options and that file
alone; the bundle only remembers which names were given, so that it can report
two files with one name. A file that cannot be named contributes nothing, but it
is counted.
-/

import ModuleBundler.Definition
import ModuleBundler.Identifier
import ModuleBundler.Log
import ModuleBundler.Options
import ModuleBundler.Path

namespace ModuleBundler

/-! ## Source files -/

/-- A source file as the configuration sees it and as the file system knows it. -/
structure SourcePath where
  /-- The path that names the module. -/
  display : String
  /-- Where the file is read. -/
  location : Path
  deriving DecidableEq, Repr

/-- A source file with its text. -/
structure SourceFile where
  path : SourcePath
  content : String
  deriving DecidableEq, Repr

/-! ## One file -/

/-- What became of a file. -/
inductive Outcome where
  /-- Added unchanged. -/
  | concatenated
  /-- Its definition call was given a name. -/
  | named (id : Identifier)
  /-- Its definition call had a name already; added unchanged. -/
  | alreadyNamed
  deriving DecidableEq, Repr

/-- The text that a file adds to a bundle, and what became of it. -/
structure Contribution where
  outcome : Outcome
  piece : String
  deriving DecidableEq, Repr

namespace Bundle

/-- The statement that sets the variable of a module to its name. -/
def statement (varName : Option String) (id : Identifier) : String :=
  match varName with
  | some name => "    var " ++ name ++ " = '" ++ id.text ++ "';"
  | none => ""

/-- The text of a file whose anonymous definition call is given a name. -/
def insertName (o : Options) (id : Identifier) (span : CallSpan) (content : String) : String :=
  let text := content.toList
  String.ofList (Text.takeBytes span.afterToken text) ++ "'" ++ id.text ++ "', " ++
    String.ofList (Text.sliceBytes span.afterToken span.bodyStart text) ++ "\n" ++
    statement o.varName id ++
    String.ofList (Text.dropBytes span.bodyStart text) ++ "\n\n"

/-- What the search for a definition call finds in a file. -/
def detection (o : Options) (file : SourceFile) : Detection :=
  Definition.detect o.definitionToken.toList file.content.toList

/-- What a file adds to a bundle. -/
def contribution (o : Options) (file : SourceFile) : Except RootMissing Contribution :=
  if o.concatenateOnly then .ok ⟨.concatenated, file.content ++ "\n"⟩
  else match detection o file with
    | .notAModule _ => .ok ⟨.concatenated, file.content ++ "\n"⟩
    | .named _ => .ok ⟨.alreadyNamed, file.content ++ "\n"⟩
    | .anonymous span =>
      (Identifier.ofPath o.moduleRoot file.path.display).map fun id =>
        ⟨.named id, insertName o id span file.content⟩

end Bundle

/-! ## Many files -/

/-- Two files of one bundle that were given the same name. -/
structure Collision where
  id : Identifier
  /-- The display path of the file that had the name first. -/
  first : String
  duplicate : String
  deriving DecidableEq, Repr

/-- The files added so far. -/
structure Bundle where
  content : String := ""
  /-- How many files were offered, those that failed included. -/
  files : Nat := 0
  /-- How many definition calls were given a name. -/
  modules : Nat := 0
  /-- Each name given, with the first file that got it, in order. -/
  named : List (Identifier × String) := []
  collisions : List Collision := []
  deriving DecidableEq, Repr

namespace Bundle

/-- The first file that was given a name. -/
def firstNamed? (b : Bundle) (id : Identifier) : Option String :=
  (b.named.find? fun entry => entry.1 == id).map Prod.snd

/-- Remembers that a file was given a name. -/
def record (b : Bundle) (id : Identifier) (display : String) : Bundle :=
  match b.firstNamed? id with
  | some first => { b with collisions := b.collisions ++ [⟨id, first, display⟩] }
  | none => { b with named := b.named ++ [(id, display)] }

/-- Adds what a file contributes. -/
def add (b : Bundle) (file : SourceFile) (c : Contribution) : Bundle :=
  let b := { b with content := b.content ++ c.piece }
  match c.outcome with
  | .named id => { b.record id file.path.display with modules := b.modules + 1 }
  | _ => b

/-- Adds one file. A file that cannot be named is only counted. -/
def push (b : Bundle) (o : Options) (file : SourceFile) : Except RootMissing Outcome × Bundle :=
  let counted := { b with files := b.files + 1 }
  match contribution o file with
  | .ok c => (.ok c.outcome, counted.add file c)
  | .error e => (.error e, counted)

/-- Adds files one after the other, going on behind one that fails. -/
def pushAll (b : Bundle) (o : Options) (files : List SourceFile) : Bundle :=
  files.foldl (fun b file => (b.push o file).2) b

/-- The events that adding a file to a bundle reports. -/
def pushEvents (b : Bundle) (o : Options) (file : SourceFile) : List Log.Event :=
  let display := file.path.display
  match contribution o file with
  | .error _ => []
  | .ok c =>
    match c.outcome with
    | .named id =>
      (match b.firstNamed? id with
        | some first => [⟨.warn, .compilation, "module identifier collision",
            [("module", .bare id.text), ("first", .bare first), ("duplicate", .bare display)]⟩]
        | none => []) ++
      [⟨.debug, .compilation, "module rewritten", [("file", .bare display), ("module", .bare id.text)]⟩]
    | .alreadyNamed => [⟨.debug, .compilation, "module already named", [("file", .bare display)]⟩]
    | .concatenated =>
      if o.concatenateOnly then []
      else match detection o file with
        | .notAModule reason =>
          [⟨.debug, .compilation, "not a module", [("file", .bare display), ("reason", .bare reason.word)]⟩]
        | _ => []

end Bundle

end ModuleBundler
