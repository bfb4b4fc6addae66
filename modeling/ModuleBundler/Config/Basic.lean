/-
# ModuleBundler.Config.Basic -- what a configuration says

A configuration names targets. Each has input patterns, the file that its bundle
is written to, and options of its own, laid over the global ones. Targets keep
the order in which they were declared, and no two of them have one name.

Configurations come in layers. In `Config.onTopOf`, the upper layer wins wherever it
says something: option by option, target by target, and for the compress section
as a whole. A target of both layers keeps its place and takes the definition of
the upper one.
-/

import ModuleBundler.Keyed
import ModuleBundler.Options
import ModuleBundler.Path

namespace ModuleBundler

/-- Input patterns, as written: one, or a list. -/
inductive Patterns where
  | one (pattern : String)
  | many (patterns : List String)
  deriving DecidableEq, Repr

/-- The patterns in order. -/
def Patterns.toList : Patterns → List String
  | one pattern => [pattern]
  | many patterns => patterns

/-- The section of one target. -/
structure TargetSection where
  src : Option Patterns := none
  files : Option Patterns := none
  dest : Option Path := none
  options : Overrides := {}
  deriving DecidableEq, Repr

/-- The input patterns of a target: `src` where it is given, and `files` otherwise. -/
def TargetSection.patterns (t : TargetSection) : List String :=
  ((t.src <|> t.files).map Patterns.toList).getD []

/-- Targets with their names, in the order in which they were declared. -/
@[ext] structure Targets where
  entries : List (String × TargetSection) := []
  /-- No name is declared twice. -/
  distinct : (entries.map Prod.fst).Nodup := by decide
  deriving DecidableEq, Repr

/-- No targets. -/
def Targets.empty : Targets := {}

/-- The section of the global options and of all targets. -/
structure BundleSection where
  options : Overrides := {}
  targets : Targets := .empty
  deriving DecidableEq, Repr

/-- The section of the command that compresses a bundle. -/
structure CompressSection where
  command : List String
  deriving DecidableEq, Repr

/-- A configuration. -/
structure Config where
  bundle : BundleSection := {}
  compress : Option CompressSection := none
  /-- The directory that patterns and destinations are seen from. -/
  baseDir : Path := ⟨""⟩
  deriving DecidableEq, Repr

/-! ## Targets -/

namespace BundleSection

/-- Declares a target among others, in place of one of that name. -/
def putTarget (targets : List (String × TargetSection)) (name : String) (target : TargetSection) :
    List (String × TargetSection) :=
  Keyed.put targets name target

end BundleSection

namespace Targets

/-- Declares a target, in place of one of that name. -/
def put (ts : Targets) (name : String) (target : TargetSection) : Targets :=
  ⟨BundleSection.putTarget ts.entries name target, Keyed.put_nodup ts.distinct name target⟩

/-- Declares targets in order, on top of others. -/
def putAll (ts : Targets) (upper : List (String × TargetSection)) : Targets :=
  upper.foldl (fun ts entry => ts.put entry.1 entry.2) ts

instance : Coe (List (String × TargetSection)) Targets := ⟨putAll .empty⟩

instance : Membership (String × TargetSection) Targets := ⟨fun ts entry => entry ∈ ts.entries⟩

/-- The targets `upper` laid over `lower`. -/
def onTopOf (upper lower : Targets) : Targets :=
  lower.putAll upper.entries

/-- The section under a name. -/
def get? (ts : Targets) (name : String) : Option TargetSection :=
  ts.entries.lookup name

/-- What a function gives for the targets, one by one. -/
def map {α : Type} (ts : Targets) (f : String × TargetSection → α) : List α :=
  ts.entries.map f

theorem map_eq {α : Type} (ts : Targets) (f : String × TargetSection → α) :
    ts.map f = ts.entries.map f := rfl

@[simp] theorem entries_putAll (ts : Targets) (upper : List (String × TargetSection)) :
    (ts.putAll upper).entries = Keyed.putAll ts.entries upper := by
  induction upper generalizing ts with
  | nil => rfl
  | cons entry rest ih => exact ih (ts.put entry.1 entry.2)

/-- Each name is declared once. -/
theorem names_nodup (ts : Targets) : (ts.map Prod.fst).Nodup := ts.distinct

end Targets

/-! ## Layers -/

namespace BundleSection

/-- The section of that name. -/
def target? (b : BundleSection) (name : String) : Option TargetSection :=
  b.targets.get? name

/-- The section `upper` laid over `lower`. -/
def onTopOf (upper lower : BundleSection) : BundleSection where
  options := upper.options.onTopOf lower.options
  targets := upper.targets.onTopOf lower.targets

end BundleSection

namespace Config

/-- The configuration `upper` laid over `lower`; the base directory is that of
the lower one. -/
def onTopOf (upper lower : Config) : Config where
  bundle := upper.bundle.onTopOf lower.bundle
  compress := upper.compress <|> lower.compress
  baseDir := lower.baseDir

/-- What holds where no configuration says otherwise. -/
def builtIn : Config where
  bundle :=
    { options :=
        { root := some ""
          definitionToken := some "define("
          concatenateOnly := some false
          addCompressTargets := some false } }

/-- The configuration without its targets and its compress section. -/
def optionsOnly (c : Config) : Config where
  bundle := { options := c.bundle.options }

/-! ## Reading a configuration -/

/-- The options of a target without options of its own. -/
def globalOptions (c : Config) : Options :=
  .resolve c.bundle.options {}

/-- Whether compressing is wired up even if it was not asked for. -/
def addsCompressTargets (c : Config) : Bool :=
  c.bundle.options.addCompressTargets.getD false

/-- A configured path, seen from the base directory. -/
def resolvePath (c : Config) (p : Path) : Path :=
  c.baseDir.join p

/-- Refuses a configuration with values that cannot be used: the global options
are looked at first, then those of the targets in order, then the command. -/
def check (c : Config) : Except ConfigError Unit := do
  c.bundle.options.check
  c.bundle.targets.entries.forM fun entry => entry.2.options.check
  match c.compress with
  | some ⟨[]⟩ => .error .emptyCompressCommand
  | _ => .ok ()

end Config

end ModuleBundler
