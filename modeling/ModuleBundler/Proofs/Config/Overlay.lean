/-
# ModuleBundler.Proofs.Config.Overlay -- one configuration laid over another

Laying a configuration over another is a union in which the upper one wins: of each option, of the
compress section, and of each target that both declare. Targets keep their order. A target of both
stays where the lower one has it, and those that only the upper one has come behind, in its order.

Targets are told by their names in order and by what is looked up under each name. Both are read
off the two layers (`Targets.names_onTopOf`, `Targets.get?_onTopOf`), so that it does not count in
which order three layers are put together. Main statement: `onTopOf_union`.
-/

import ModuleBundler.Proofs.Config.Layers

namespace ModuleBundler

/-! ## Targets -/

namespace Targets

variable (upper lower : Targets)

/-- The names are those of the lower layer, and behind them those that only the upper one has. -/
theorem names_onTopOf : (upper.onTopOf lower).map Prod.fst =
    lower.map Prod.fst ++ (upper.map Prod.fst).filter (· ∉ lower.map Prod.fst) := by
  rw [map_eq, onTopOf, entries_putAll]
  exact Keyed.putAll_keys upper.distinct

/-- Under each name stands the section of the upper layer, where it has one. -/
theorem get?_onTopOf (name : String) :
    (upper.onTopOf lower).get? name = (upper.get? name).or (lower.get? name) := by
  rw [get?, onTopOf, entries_putAll]
  exact Keyed.lookup_putAll upper.distinct name

/-- Three layers of targets can be put together from either end. -/
theorem onTopOf_assoc (middle : Targets) :
    upper.onTopOf (middle.onTopOf lower) = (upper.onTopOf middle).onTopOf lower := by
  apply Targets.ext
  simp only [onTopOf, entries_putAll]
  exact Keyed.putAll_assoc lower.distinct middle.distinct upper.distinct

end Targets

/-! ## Options -/

namespace Overrides

theorem onTopOf_assoc (upper middle lower : Overrides) :
    upper.onTopOf (middle.onTopOf lower) = (upper.onTopOf middle).onTopOf lower := by
  simp only [onTopOf, Option.orElse_eq_orElse, Option.orElse_eq_or, Option.or_assoc]

theorem empty_onTopOf (o : Overrides) : ({} : Overrides).onTopOf o = o := rfl

end Overrides

/-! ## Configurations -/

namespace Config

/-- What is laid together is the upper value where there is one, and the lower one otherwise. -/
def Overlaid {α : Type} (laid upper lower : Option α) : Prop :=
  (∀ a, upper = some a → laid = some a) ∧ (upper = none → laid = lower)

theorem overlaid_or {α : Type} (upper lower : Option α) :
    Overlaid (upper.or lower) upper lower := by
  constructor
  · rintro a rfl
    rfl
  · rintro rfl
    rfl

theorem overlaid_orElse {α : Type} (upper lower : Option α) :
    Overlaid (upper <|> lower) upper lower := by
  rw [Option.orElse_eq_orElse, Option.orElse_eq_or]
  exact overlaid_or upper lower

theorem onTopOf_assoc (lower upper top : Config) :
    top.onTopOf (upper.onTopOf lower) = (top.onTopOf upper).onTopOf lower := by
  simp only [onTopOf, BundleSection.onTopOf, Overrides.onTopOf_assoc, Targets.onTopOf_assoc,
    Option.orElse_eq_orElse, Option.orElse_eq_or, Option.or_assoc]

/-- Over what says nothing, a configuration stays as it is, but for the base directory. -/
theorem onTopOf_empty (c : Config) : c.onTopOf {} = { c with baseDir := ⟨""⟩ } := by
  simp [onTopOf, BundleSection.onTopOf]

theorem empty_onTopOf (c : Config) : ({} : Config).onTopOf c = c := by
  simp [onTopOf, BundleSection.onTopOf, Overrides.empty_onTopOf]

/-- **Laying configurations over each other is a union in which the upper one wins.** For all
configurations, each of which declares a name once:
* three layers can be put together from either end;
* laid over one that says nothing, or one that says nothing laid over it, a configuration stays as
  it is, but that the base directory is always that of the lower one;
* the names of the targets are those of the lower layer, in its order, and behind them those that
  only the upper one has, in its order, each once;
* what stands under each name, each option and the compress section are those of the upper layer
  where it has them, and those of the lower one otherwise. -/
theorem onTopOf_union (lower upper top : Config) :
    let laid := upper.onTopOf lower
    top.onTopOf laid = (top.onTopOf upper).onTopOf lower ∧
    ({} : Config).onTopOf lower = lower ∧ lower.onTopOf {} = { lower with baseDir := ⟨""⟩ } ∧
    laid.baseDir = lower.baseDir ∧
    laid.bundle.targets.map Prod.fst = lower.bundle.targets.map Prod.fst ++
      (upper.bundle.targets.map Prod.fst).filter (· ∉ lower.bundle.targets.map Prod.fst) ∧
    (laid.bundle.targets.map Prod.fst).Nodup ∧
    (∀ name, Overlaid (laid.bundle.target? name) (upper.bundle.target? name)
      (lower.bundle.target? name)) ∧
    Overlaid laid.bundle.options.root upper.bundle.options.root lower.bundle.options.root ∧
    Overlaid laid.bundle.options.definitionToken upper.bundle.options.definitionToken
      lower.bundle.options.definitionToken ∧
    Overlaid laid.bundle.options.concatenateOnly upper.bundle.options.concatenateOnly
      lower.bundle.options.concatenateOnly ∧
    Overlaid laid.bundle.options.varName upper.bundle.options.varName
      lower.bundle.options.varName ∧
    Overlaid laid.bundle.options.addCompressTargets upper.bundle.options.addCompressTargets
      lower.bundle.options.addCompressTargets ∧
    Overlaid laid.compress upper.compress lower.compress := by
  intro laid
  refine ⟨onTopOf_assoc lower upper top, empty_onTopOf lower, onTopOf_empty lower, rfl,
    Targets.names_onTopOf _ _, laid.bundle.targets.names_nodup, ?_,
    overlaid_orElse _ _, overlaid_orElse _ _, overlaid_orElse _ _, overlaid_orElse _ _,
    overlaid_orElse _ _, overlaid_orElse _ _⟩
  intro name
  have hsection : laid.bundle.target? name =
      (upper.bundle.target? name).or (lower.bundle.target? name) :=
    Targets.get?_onTopOf _ _ name
  rw [hsection]
  exact overlaid_or _ _

/-- Three layers, where the middle one redefines a target of the lowest and adds one, and the
uppermost redefines both: the targets stay in place, and an option and the compress section come
from wherever they are set last. -/
theorem onTopOf_union_redefined :
    let target (dest : String) : TargetSection := { dest := some ⟨dest⟩ }
    let lower : Config :=
      { bundle :=
          { options := { root := some "amd/" }
            targets := { entries := [("app", target "1"), ("libs", {})] } }
        compress := some ⟨["min"]⟩
        baseDir := ⟨"/p"⟩ }
    let upper : Config :=
      { bundle :=
          { options := { root := some "" }
            targets := { entries := [("new", {}), ("app", target "2")] } }
        baseDir := ⟨"/q"⟩ }
    let top : Config :=
      { bundle := { targets := { entries := [("app", target "3"), ("new", target "4")] } } }
    top.onTopOf (upper.onTopOf lower) = (top.onTopOf upper).onTopOf lower ∧
      (upper.onTopOf lower).bundle.targets.map Prod.fst = ["app", "libs", "new"] ∧
      (upper.onTopOf lower).bundle.options.root = some "" ∧
      (upper.onTopOf lower).compress = some ⟨["min"]⟩ := by
  intro target lower upper top
  obtain ⟨hassoc, -, -, -, hnames, -, -, hroot, -, -, -, -, hcompress⟩ :=
    onTopOf_union lower upper top
  exact ⟨hassoc, hnames.trans (by decide), hroot.1 "" rfl, hcompress.2 rfl⟩

end Config

end ModuleBundler
