/-
# ModuleBundler.Proofs.Compile.Isolation -- targets in any order

Targets that keep apart, and no two of which are written to one place, can be compiled in
any order (`targets_perm`): each gives what it gives alone, and the tree is the same in the
end.

Destinations are compared by their places. Paths that are written in different ways may
lead to one file, and what this file holds is then a matter of order
(`aliased_outputs_differ`).
-/

import ModuleBundler.Proofs.Compile.Apart

namespace ModuleBundler.Compile

/-- What a target gives when it is compiled alone, if it has a destination and succeeds. -/
def resultOf (c : Config) (s : Session) (target : Target) : Option Compiled :=
  ((Compile.target c target).run s).1.toOption

section Run

variable {c : Config} {s s' : Session} {ts : List Target}

theorem Apart.resultOf_eq (h : Apart c s ts) {target : Target} (htarget : target ∈ ts) :
    resultOf c s target = (planOf c s target).map Prod.fst := by
  have hparent := h.hasParent h.beside htarget
  unfold resultOf
  cases hplan : planOf c s target with
  | some planned =>
    obtain ⟨notices, hrun⟩ := target_run_of_plan h.plain hparent hplan
    rw [hrun]
    rfl
  | none =>
    by_cases hdest : target.dest = none
    · rw [Compile.target, hdest]
      rfl
    · obtain ⟨f, _, hrun⟩ := target_run_of_plan_eq_none h.plain hdest hparent hplan
      rw [hrun]
      rfl

theorem Apart.map_fst_plans (h : Apart c s ts) {us : List Target} (hus : us ⊆ ts) :
    (us.filterMap (planOf c s)).map Prod.fst = us.filterMap (resultOf c s) := by
  rw [List.map_filterMap]
  exact List.filterMap_congr fun target htarget => (h.resultOf_eq (hus htarget)).symm

/-- Planned targets are written to their outputs. -/
theorem Apart.map_snd_plans (h : Apart c s ts)
    (hplanned : ∀ target ∈ ts, target.dest ≠ none → planOf c s target ≠ none) :
    (ts.filterMap (planOf c s)).map Prod.snd = outputs c s.workingDir ts := by
  rw [List.map_filterMap]
  refine List.filterMap_congr fun target htarget => ?_
  by_cases hdest : target.dest = none
  · simp [planOf, plan, outputOf, hdest]
  · obtain ⟨⟨r, l⟩, hplan⟩ := Option.ne_none_iff_exists'.mp (hplanned target htarget hdest)
    rw [hplan, (plan_outputOf h.plain hplan).1]
    rfl

/-- Bundles that go to different places can be written in any order. -/
theorem writtenTo_perm {plans plans' : List (Compiled × Location)} (hperm : plans'.Perm plans)
    (hdistinct : (plans.map Prod.snd).Nodup) (lookup : Location → Option Node) :
    writtenTo lookup plans' = writtenTo lookup plans := by
  refine hperm.foldl_eq' (fun a ha b hb lookup => ?_) lookup
  by_cases hab : a = b
  · rw [hab]
  · have hapart : a.2 ≠ b.2 := fun hsame => hab
      (List.inj_on_of_nodup_map hdistinct (hperm.subset ha) (hperm.subset hb) hsame)
    exact Function.update_comm hapart _ _ _

/-- **Targets in any order.** Take targets that keep apart and are written to different places.
If compiling them succeeds, each of them gives what it gives alone. In any other order it
succeeds as well, with the same result of every target and the same files in the end. -/
theorem targets_perm (h : Apart c s ts) (hdistinct : (outputs c s.workingDir ts).Nodup)
    {results : List Compiled} (hrun : (targets c ts).run s = (.ok results, s')) :
    results = ts.filterMap (resultOf c s) ∧
      (∀ target ∈ ts, target.dest ≠ none → resultOf c s target ≠ none) ∧
      ∀ ts' : List Target, ts'.Perm ts →
        ∃ s'', (targets c ts').run s = (.ok (ts'.filterMap (resultOf c s)), s'') ∧
          s''.tree.lookup = s'.tree.lookup := by
  have hplanned := h.planned_of_targets_run (List.Subset.refl ts) h.beside hrun
  have hall (us : List Target) (hus : us ⊆ ts) :
      ∃ s'', (targets c us).run s = (.ok (us.filterMap (resultOf c s)), s'') ∧
        s''.tree.lookup = writtenTo s.tree.lookup (us.filterMap (planOf c s)) := by
    obtain ⟨s'', hrun', -, hlookup⟩ := h.targets_run_of_planned hus
      (fun target htarget => hplanned target (hus htarget)) h.beside
    rw [h.map_fst_plans hus] at hrun'
    exact ⟨s'', hrun', hlookup⟩
  obtain ⟨s₁, hrun₁, hlookup₁⟩ := hall ts (List.Subset.refl ts)
  obtain ⟨hresults, rfl⟩ := Prod.mk.inj (hrun.symm.trans hrun₁)
  refine ⟨Except.ok.inj hresults, fun target htarget hdest => ?_, fun ts' hperm => ?_⟩
  · rw [h.resultOf_eq htarget]
    simpa using hplanned target htarget hdest
  · obtain ⟨s'', hrun', hlookup⟩ := hall ts' hperm.subset
    refine ⟨s'', hrun', ?_⟩
    rw [hlookup, hlookup₁]
    refine writtenTo_perm (hperm.filterMap _) ?_ _
    rw [h.map_snd_plans hplanned]
    exact hdistinct

end Run

/-- Two targets with an input in common, compiled in the other order. -/
theorem targets_perm_shared :
    let file (text : String) : Node := .file (.text text)
    let s : Session :=
      { tree :=
          { entries := [(["a.js"], file "define([], function () \x7b\n\x7d);\n"),
              (["b.js"], file "b();\n"), (["out"], .directory), (["out", "one.js"], file "old")] } }
    let c : Config := { baseDir := ⟨"/"⟩ }
    let one : Target := ⟨"one", ["*.js"], some ⟨"out/one.js"⟩, {}⟩
    let two : Target := ⟨"two", ["b.js"], some ⟨"out/two.js"⟩, {}⟩
    ∃ s₁ s₂, (targets c [one, two]).run s = (.ok ([one, two].filterMap (resultOf c s)), s₁) ∧
      (targets c [two, one]).run s = (.ok ([two, one].filterMap (resultOf c s)), s₂) ∧
      s₂.tree.lookup = s₁.tree.lookup ∧ s₁.tree.lookup ["out", "two.js"] = some (file "b();\n\n") := by
  intro file s c one two
  have happart : Apart c s [one, two] :=
    ⟨FileTree.plain_of_entries (by decide +kernel) (FileTree.lookup_nil _),
      by decide +kernel, by decide +kernel⟩
  have hsucceeds : ((targets c [one, two]).run s).1.toOption.isSome = true := by decide +kernel
  obtain ⟨results, hrun⟩ := Job.exists_of_isSome hsucceeds
  obtain ⟨hall, -, hperm⟩ := targets_perm happart (by decide +kernel) hrun
  obtain ⟨s₂, hrun₂, hlookup⟩ := hperm [two, one] (List.Perm.swap one two [])
  rw [hall] at hrun
  exact ⟨_, s₂, hrun, hrun₂, hlookup, by decide +kernel⟩

/-- Two destinations that are written in different ways, neither of them inside the other, may
lead to one file: it holds the bundle of the target that was compiled last. -/
theorem aliased_outputs_differ :
    let s : Session :=
      { tree :=
          { entries := [(["a.js"], .file (.text "a();\n")), (["b.js"], .file (.text "b();\n")),
              (["sub"], .directory)] } }
    let c : Config := { baseDir := ⟨"/"⟩ }
    let first : Path := ⟨"out.js"⟩
    let second : Path := ⟨"sub/../out.js"⟩
    let one : Target := ⟨"one", ["a.js"], some first, {}⟩
    let two : Target := ⟨"two", ["b.js"], some second, {}⟩
    Apart c s [one, two] ∧
      Path.componentsBehind? (c.resolvePath first) (c.resolvePath second) = none ∧
      Path.componentsBehind? (c.resolvePath second) (c.resolvePath first) = none ∧
      ∃ results₁ s₁ results₂ s₂, (targets c [one, two]).run s = (.ok results₁, s₁) ∧
        (targets c [two, one]).run s = (.ok results₂, s₂) ∧
        s₁.tree.lookup ["out.js"] = some (.file (.text "b();\n\n")) ∧
        s₂.tree.lookup ["out.js"] = some (.file (.text "a();\n\n")) := by
  intro s c first second one two
  have happart : Apart c s [one, two] :=
    ⟨FileTree.plain_of_entries (by decide +kernel) (FileTree.lookup_nil _),
      by decide +kernel, by decide +kernel⟩
  have hsucceeds : ∀ ts ∈ [[one, two], [two, one]],
      ((targets c ts).run s).1.toOption.isSome = true := by decide +kernel
  obtain ⟨results₁, hrun₁⟩ := Job.exists_of_isSome (hsucceeds [one, two] (by simp))
  obtain ⟨results₂, hrun₂⟩ := Job.exists_of_isSome (hsucceeds [two, one] (by simp))
  refine ⟨happart, by decide +kernel, by decide +kernel, results₁, _, results₂, _, hrun₁, hrun₂, ?_⟩
  exact ⟨by decide +kernel, by decide +kernel⟩

end ModuleBundler.Compile
