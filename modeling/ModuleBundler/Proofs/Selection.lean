/-
# ModuleBundler.Proofs.Selection -- which targets a run is about

A run can be narrowed to some targets by two lists of names: those that are wanted, and those
that are not. `Selects` says which targets these are: the declared ones with a name that is wanted
and not unwanted, in the order of their declaration. How the names were given does not count,
neither their order nor that one was given twice (`Selects.congr`).

Where a name belongs to no target, there is no selection, but an error with the first such name.
Main statement: `select_exact`.
-/

import ModuleBundler.Compress
import Mathlib.Data.List.Nodup

namespace ModuleBundler.Target

variable {b : BundleSection} {only exclude only' exclude' : List String} {selected : List Target}

/-! ## Declared targets -/

/-- A name belongs to a target: it is declared, and it is not the one of the global options. -/
def Declared (b : BundleSection) (name : String) : Prop :=
  name ≠ "options" ∧ name ∈ b.targets.map Prod.fst

theorem isDeclared_iff {name : String} : isDeclared b name = true ↔ Declared b name := by
  have hfound : (b.target? name).isSome = true ↔ name ∈ b.targets.map Prod.fst := by
    rw [Option.isSome_iff_ne_none, Ne, BundleSection.target?, Targets.get?,
      Keyed.lookup_eq_none_iff]
    exact not_not
  rw [isDeclared, Bool.and_eq_true, hfound, bne_iff_ne]
  rfl

theorem all_names (b : BundleSection) :
    (all b).map Target.name = (b.targets.map Prod.fst).filter (· ≠ "options") := by
  rw [all, Targets.map_eq, List.map_map, List.filter_map]
  refine congrArg (List.map Prod.fst) (List.filter_congr fun entry _ => ?_)
  simp [reservedName, bne, beq_eq_decide]

theorem mem_all_name {target : Target} (h : target ∈ all b) : Declared b target.name := by
  have hname : target.name ∈ (all b).map Target.name := List.mem_map_of_mem h
  rw [all_names, List.mem_filter] at hname
  exact ⟨of_decide_eq_true hname.2, hname.1⟩

theorem all_names_nodup (b : BundleSection) : ((all b).map Target.name).Nodup := by
  rw [all_names]
  exact b.targets.names_nodup.filter _

/-! ## Selections -/

/-- The targets of a run: of those that are declared, in their order, the ones that are wanted (all,
where no name is given) and not unwanted. -/
structure Selects (b : BundleSection) (only exclude : List String) (selected : List Target) :
    Prop where
  inOrder : selected.Sublist (all b)
  members : ∀ target, target ∈ selected ↔
    target ∈ all b ∧ (only = [] ∨ target.name ∈ only) ∧ target.name ∉ exclude

/-- Only the names that are given count. -/
theorem Selects.congr (h : Selects b only exclude selected)
    (honly : ∀ name, name ∈ only' ↔ name ∈ only)
    (hexclude : ∀ name, name ∈ exclude' ↔ name ∈ exclude) : Selects b only' exclude' selected := by
  have hnil : only' = [] ↔ only = [] := by
    simp only [List.eq_nil_iff_forall_not_mem, honly]
  refine ⟨h.inOrder, fun target => ?_⟩
  rw [h.members, hnil, honly, hexclude]

/-- A part of a list without repetitions is made of those entries of it that are in the part. -/
theorem eq_filter_of_sublist {part whole : List Target} {p : Target → Bool} (hwhole : whole.Nodup)
    (hpart : part.Sublist whole) (h : ∀ target ∈ whole, target ∈ part ↔ p target = true) :
    part = whole.filter p := by
  induction hpart with
  | slnil => rfl
  | @cons part rest target hrest ih =>
    obtain ⟨hnot, hnodup⟩ := List.nodup_cons.mp hwhole
    have hout : ¬ p target = true := fun hp =>
      hnot (hrest.subset ((h target List.mem_cons_self).mpr hp))
    rw [List.filter_cons_of_neg hout]
    exact ih hnodup fun other hother => h other (List.mem_cons_of_mem _ hother)
  | @cons_cons part rest target hrest ih =>
    obtain ⟨hnot, hnodup⟩ := List.nodup_cons.mp hwhole
    have hin : p target = true := (h target List.mem_cons_self).mp List.mem_cons_self
    rw [List.filter_cons_of_pos hin, ← ih hnodup fun other hother => ?_]
    rw [← h other (List.mem_cons_of_mem _ hother), List.mem_cons]
    exact ⟨.inr, fun hmem => hmem.resolve_left fun heq => hnot (heq ▸ hother)⟩

/-- The selection is what is left of the declared targets. -/
theorem selects_iff : Selects b only exclude selected ↔ selected = (all b).filter fun target =>
      (only.isEmpty || only.contains target.name) && !exclude.contains target.name := by
  have hwanted (target : Target) :
      ((only.isEmpty || only.contains target.name) && !exclude.contains target.name) = true ↔
        (only = [] ∨ target.name ∈ only) ∧ target.name ∉ exclude := by
    simp
  constructor
  · intro h
    refine eq_filter_of_sublist (all_names_nodup b).of_map h.inOrder fun target htarget => ?_
    rw [h.members, hwanted]
    exact and_iff_right htarget
  · rintro rfl
    refine ⟨List.filter_sublist, fun target => ?_⟩
    rw [List.mem_filter, hwanted]

/-! ## Selecting -/

/-- There is no selection exactly where a name belongs to no target; the first one is told. -/
theorem select_eq_error_iff {e : ConfigError} :
    select b only exclude = .error e ↔ ∃ front name behind,
      only ++ exclude = front ++ name :: behind ∧ (∀ earlier ∈ front, Declared b earlier) ∧
        ¬ Declared b name ∧ e = .unknownTarget name := by
  have hfind : select b only exclude = .error e ↔ ∃ name,
      ((only ++ exclude).find? fun name => !isDeclared b name) = some name ∧
        e = .unknownTarget name := by
    rw [select]
    cases (only ++ exclude).find? fun name => !isDeclared b name with
    | none => simp
    | some name => simp [eq_comm]
  rw [hfind]
  simp only [List.find?_eq_some_iff_append, Bool.not_eq_true', Bool.not_not, ← Bool.not_eq_true,
    isDeclared_iff]
  constructor
  · rintro ⟨name, ⟨hnot, front, behind, hnames, hfront⟩, he⟩
    exact ⟨front, name, behind, hnames, hfront, hnot, he⟩
  · rintro ⟨front, name, behind, hnames, hfront, hnot, he⟩
    exact ⟨name, ⟨hnot, front, behind, hnames, hfront⟩, he⟩

/-- Selecting gives what is left of the declared targets, where every name belongs to one. -/
theorem select_eq_ok_iff_filter : select b only exclude = .ok selected ↔
    (∀ name ∈ only ++ exclude, Declared b name) ∧ selected = (all b).filter fun target =>
      (only.isEmpty || only.contains target.name) && !exclude.contains target.name := by
  rw [select]
  cases hfind : (only ++ exclude).find? fun name => !isDeclared b name with
  | none =>
    have hall : ∀ name ∈ only ++ exclude, Declared b name := by
      simpa [isDeclared_iff] using List.find?_eq_none.mp hfind
    rw [and_iff_right hall, Except.ok.injEq, eq_comm]
  | some name =>
    have hnot : ¬ Declared b name := by
      simpa [← isDeclared_iff] using List.find?_some hfind
    constructor
    · intro h
      cases h
    · rintro ⟨hall, -⟩
      exact absurd (hall name (List.mem_of_find?_eq_some hfind)) hnot

theorem eq_filter_of_select (h : select b only exclude = .ok selected) :
    selected = (all b).filter fun target =>
      (only.isEmpty || only.contains target.name) && !exclude.contains target.name :=
  (select_eq_ok_iff_filter.mp h).2

theorem select_eq_ok_iff : select b only exclude = .ok selected ↔
    (∀ name ∈ only ++ exclude, Declared b name) ∧ Selects b only exclude selected := by
  rw [selects_iff, select_eq_ok_iff_filter]

/-- **Which targets are selected.** The targets are the declared ones, each name once and in their
order, without the reserved name:
* selecting fails exactly where a name that was given belongs to no target, with the first such
  name, those that are wanted before those that are not;
* otherwise it gives the targets that are wanted and not unwanted, in the order of their
  declaration, each once;
* of the names that are given for a selection, neither order nor repetition counts;
* no target that is declared or selected has the reserved name, and no task that compresses. -/
theorem select_exact (b : BundleSection) (only exclude : List String) :
    (all b).map Target.name = (b.targets.map Prod.fst).filter (· ≠ "options") ∧
    (∀ e, select b only exclude = .error e ↔ ∃ front name behind,
      only ++ exclude = front ++ name :: behind ∧ (∀ earlier ∈ front, Declared b earlier) ∧
        ¬ Declared b name ∧ e = .unknownTarget name) ∧
    (∀ selected, select b only exclude = .ok selected ↔
      (∀ name ∈ only ++ exclude, Declared b name) ∧ Selects b only exclude selected) ∧
    (∀ selected, select b only exclude = .ok selected → (selected.map Target.name).Nodup) ∧
    (∀ only' exclude', (∀ name, name ∈ only' ↔ name ∈ only) →
      (∀ name, name ∈ exclude' ↔ name ∈ exclude) → ∀ selected,
        select b only' exclude' = .ok selected ↔ select b only exclude = .ok selected) ∧
    (∀ target ∈ all b, target.name ≠ "options") ∧
    (∀ selected, select b only exclude = .ok selected →
      ∀ target ∈ selected, target.name ≠ "options") ∧
    ∀ task ∈ Compress.tasks b, task.name ≠ "options" := by
  have hreserved : ∀ target ∈ all b, target.name ≠ "options" := fun _ htarget =>
    (mem_all_name htarget).1
  refine ⟨all_names b, fun e => select_eq_error_iff, fun selected => select_eq_ok_iff, ?_, ?_,
    hreserved, ?_, ?_⟩
  · intro selected h
    have hselects := (select_eq_ok_iff.mp h).2
    exact (all_names_nodup b).sublist (hselects.inOrder.map Target.name)
  · intro only' exclude' honly hexclude selected
    rw [select_eq_ok_iff, select_eq_ok_iff]
    simp only [List.mem_append, honly, hexclude]
    refine and_congr_right fun _ => ⟨fun h => ?_, fun h => h.congr honly hexclude⟩
    exact h.congr (fun name => (honly name).symm) fun name => (hexclude name).symm
  · intro selected h target htarget
    exact hreserved target ((select_eq_ok_iff.mp h).2.inOrder.subset htarget)
  · intro task htask
    obtain ⟨target, htarget, htask⟩ := List.mem_filterMap.mp htask
    obtain ⟨dest, -, rfl⟩ := Option.map_eq_some_iff.mp htask
    exact hreserved target htarget

/-- An entry of the reserved name among others: it is no target, and names that are given twice
and in another order select as if they were given once. -/
theorem select_exact_reserved :
    let b : BundleSection :=
      { targets :=
          { entries := [("libs", {}), ("options", {}), ("app", { dest := some ⟨"app.js"⟩ }),
              ("old", {})] } }
    (b.targets.map Prod.fst).Nodup ∧ select b ["app", "options"] ["nope"] =
      .error (.unknownTarget "options") ∧
    ∃ selected, select b ["old", "app", "libs", "app"] ["old", "old"] = .ok selected ∧
      selected.map Target.name = ["libs", "app"] ∧
      select b ["libs", "app", "old"] ["old"] = .ok selected := by
  intro b
  obtain ⟨-, herror, -⟩ := select_exact b ["app", "options"] ["nope"]
  obtain ⟨-, -, -, -, hgiven, -⟩ := select_exact b ["old", "app", "libs", "app"] ["old", "old"]
  refine ⟨b.targets.names_nodup, (herror _).mpr ⟨["app"], "options", ["nope"], rfl, ?_, ?_, rfl⟩,
    _, rfl, by decide, (hgiven _ _ ?_ ?_ _).mpr rfl⟩
  · rintro _ (_ | ⟨_, ⟨⟩⟩)
    exact isDeclared_iff.mp (by decide)
  · exact fun h => h.1 rfl
  · intro name
    simp only [List.mem_cons, List.not_mem_nil, or_false]
    grind
  · intro name
    simp

end ModuleBundler.Target
