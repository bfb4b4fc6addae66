/-
# ModuleBundler.Proofs.Config.Layers -- layers laid over each other

Of layers of options that are laid over each other, each option is the one of the
uppermost layer that sets it (`ReadsOption.stack`). Targets that are laid over none,
and none that are laid over targets, leave these as they are.
-/

import ModuleBundler.Config.Basic

namespace ModuleBundler

/-! ## Options -/

namespace Overrides

/-- Layers laid over each other, the uppermost first. -/
def stack : List Overrides → Overrides
  | [] => {}
  | upper :: lower => upper.onTopOf (stack lower)

/-- A reading of one option: it is unset in the layer that sets nothing, and the
upper one of two layers is asked first. -/
structure ReadsOption {α : Type} (read : Overrides → Option α) : Prop where
  unset : read {} = none
  onTopOf : ∀ upper lower, read (upper.onTopOf lower) = (read upper <|> read lower)

theorem readsOption_root : ReadsOption Overrides.root := ⟨rfl, fun _ _ => rfl⟩

theorem readsOption_definitionToken : ReadsOption definitionToken := ⟨rfl, fun _ _ => rfl⟩

theorem readsOption_concatenateOnly : ReadsOption concatenateOnly := ⟨rfl, fun _ _ => rfl⟩

theorem readsOption_varName : ReadsOption varName := ⟨rfl, fun _ _ => rfl⟩

theorem readsOption_addCompressTargets : ReadsOption addCompressTargets := ⟨rfl, fun _ _ => rfl⟩

/-- The first value that is set, from the uppermost layer on, is the one that holds. -/
theorem ReadsOption.stack {α : Type} {read : Overrides → Option α} (hread : ReadsOption read)
    (layers : List Overrides) : read (stack layers) = layers.findSome? read := by
  induction layers with
  | nil => exact hread.unset
  | cons upper lower ih =>
    rw [Overrides.stack, hread.onTopOf, List.findSome?_cons, ih]
    cases read upper <;> rfl

@[simp] theorem onTopOf_empty (o : Overrides) : o.onTopOf {} = o := by
  simp [onTopOf]

end Overrides

/-- The options of a target are read off the layers, with its own on top of the global ones. -/
theorem Options.resolve_stack (target : Overrides) (layers : List Overrides) :
    Options.resolve (.stack layers) target =
      { root := ((target :: layers).findSome? Overrides.root).getD ""
        definitionToken := ((target :: layers).findSome? Overrides.definitionToken).getD "define("
        concatenateOnly := ((target :: layers).findSome? Overrides.concatenateOnly).getD false
        varName := ((target :: layers).findSome? Overrides.varName).filter (· ≠ "") } := by
  rw [← Overrides.readsOption_root.stack, ← Overrides.readsOption_definitionToken.stack,
    ← Overrides.readsOption_concatenateOnly.stack, ← Overrides.readsOption_varName.stack]
  rfl

/-! ## Targets -/

namespace Targets

/-- Over no targets, targets stay as they are. -/
@[simp] theorem onTopOf_empty (ts : Targets) : ts.onTopOf .empty = ts := by
  apply Targets.ext
  rw [onTopOf, entries_putAll]
  exact Keyed.putAll_of_nodup ts.distinct

@[simp] theorem empty_onTopOf (ts : Targets) : Targets.empty.onTopOf ts = ts := rfl

/-- Targets that are declared in order, each name once, are declared as they stand. -/
theorem entries_ofList {entries : List (String × TargetSection)}
    (h : (entries.map Prod.fst).Nodup) : (entries : Targets).entries = entries := by
  rw [entries_putAll]
  exact Keyed.putAll_of_nodup h

end Targets

end ModuleBundler
