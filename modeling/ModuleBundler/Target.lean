/-
# ModuleBundler.Target -- the targets of a configuration

The targets are the entries of the bundle section, in the order of their
declaration, without the reserved entry `options`. A run can be narrowed to some
of them; the order stays that of the declaration, however the names were given.
-/

import ModuleBundler.Config.Basic

namespace ModuleBundler

/-- A named set of input patterns that becomes one file. -/
structure Target where
  name : String
  patterns : List String
  dest : Option Path
  overrides : Overrides
  deriving DecidableEq, Repr

namespace Target

/-- The name that stands for the global options and is never a target. -/
def reservedName : String := "options"

/-- The target that an entry of the bundle section declares. -/
def ofEntry (entry : String × TargetSection) : Target where
  name := entry.1
  patterns := entry.2.patterns
  dest := entry.2.dest
  overrides := entry.2.options

/-- Every declared target, in order. -/
def all (b : BundleSection) : List Target :=
  (b.targets.entries.filter fun entry => entry.1 != reservedName).map ofEntry

/-- Whether a name belongs to a target. -/
def isDeclared (b : BundleSection) (name : String) : Bool :=
  name != reservedName && (b.target? name).isSome

/-- The targets of a run: those in `only`, or all where `only` is empty, without
those in `exclude`. A name that belongs to no target is an error; of several, the
first one given. -/
def select (b : BundleSection) (only exclude : List String) : Except ConfigError (List Target) :=
  match (only ++ exclude).find? fun name => !isDeclared b name with
  | some name => .error (.unknownTarget name)
  | none => .ok <| (all b).filter fun target =>
      (only.isEmpty || only.contains target.name) && !exclude.contains target.name

/-- The options that a target is bundled with. -/
def options (t : Target) (b : BundleSection) : Options :=
  .resolve b.options t.overrides

end Target

end ModuleBundler
