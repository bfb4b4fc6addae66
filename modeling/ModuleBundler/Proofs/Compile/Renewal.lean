/-
# ModuleBundler.Proofs.Compile.Renewal -- targets compiled once more

What compiles targets once more does not see what became of their bundles. Whoever works on
bundles in place may write into them and delete them, in any order (`FileTree.Reworked`): where
no bundle is read as a source, the next run gives the same results and leaves every bundle as
the first run did (`targets_again`). Targets may share a destination.

As in `Apart`, a destination counts as a source by the file that it leads to, however the
path is written.
-/

import ModuleBundler.Proofs.Compile.Isolation
import ModuleBundler.Proofs.FileTree.Written

namespace ModuleBundler.Compile

/-! ## What is written over -/

theorem writtenTo_cons (lookup : Location → Option Node) (plan : Compiled × Location)
    (rest : List (Compiled × Location)) :
    writtenTo lookup (plan :: rest) =
      writtenTo (Function.update lookup plan.2 (some (.file (.text plan.1.content)))) rest :=
  rfl

section WrittenTo

variable {plans : List (Compiled × Location)} {l : Location}

theorem writtenTo_of_not_mem (lookup : Location → Option Node) (hl : l ∉ plans.map Prod.snd) :
    writtenTo lookup plans l = lookup l := by
  induction plans generalizing lookup with
  | nil => rfl
  | cons plan rest ih =>
    obtain ⟨hplan, hrest⟩ := not_or.mp (mt List.mem_cons.mpr hl)
    rw [writtenTo_cons, ih _ hrest, Function.update_of_ne hplan]

/-- Where bundles are written, there is a text in the end, whatever was there before. -/
theorem writtenTo_of_mem (hl : l ∈ plans.map Prod.snd) :
    ∃ text, ∀ lookup, writtenTo lookup plans l = some (.file (.text text)) := by
  induction plans with
  | nil => cases hl
  | cons plan rest ih =>
    by_cases hrest : l ∈ rest.map Prod.snd
    · obtain ⟨text, htext⟩ := ih hrest
      exact ⟨text, fun lookup => htext _⟩
    · -- The first bundle is the last one that is written here.
      obtain rfl : l = plan.2 := (List.mem_cons.mp hl).resolve_right hrest
      refine ⟨plan.1.content, fun lookup => ?_⟩
      rw [writtenTo_cons, writtenTo_of_not_mem _ hrest, Function.update_self]

/-- What was at the places of the bundles makes no difference. -/
theorem writtenTo_congr {lookup lookup' : Location → Option Node}
    (h : ∀ l, l ∉ plans.map Prod.snd → lookup' l = lookup l) :
    writtenTo lookup' plans = writtenTo lookup plans := by
  funext l
  by_cases hl : l ∈ plans.map Prod.snd
  · obtain ⟨text, htext⟩ := writtenTo_of_mem hl
    rw [htext, htext]
  · rw [writtenTo_of_not_mem _ hl, writtenTo_of_not_mem _ hl, h l hl]

end WrittenTo

/-! ## The next run -/

section Run

variable {c : Config} {s s' s₂ : Session} {ts : List Target}

/-- A session stays beside the first when bundles that were written are reworked. -/
theorem Beside.reworked (hs' : Beside c s ts s')
    (htakes : ∀ l ∈ outputs c s.workingDir ts, s.tree.TakesFile l)
    (hworking : s₂.workingDir = s.workingDir)
    (hreworked : FileTree.Reworked (· ∈ outputs c s.workingDir ts) s'.tree s₂.tree) :
    Beside c s ts s₂ := by
  have hsame : s.tree.SameOutside (· ∈ outputs c s.workingDir ts) s'.tree := by
    convert hs'.same using 2 with l
    exact ⟨fun hl => ⟨hl, htakes l hl⟩, And.left⟩
  obtain ⟨hplain, hsame₂⟩ := hreworked.sameOutside hs'.plain hsame.takes'
  refine ⟨hworking, hplain, ?_⟩
  convert hsame.trans hsame₂ using 2 with l
  exact ⟨And.left, fun hl => ⟨hl, htakes l hl⟩⟩

/-- A bundle that was written is read from its destination. -/
theorem Beside.readText (h : Apart c s ts) (hs' : Beside c s ts s') {target : Target}
    {dest : Path} (hdest : target.dest = some dest) (hplan : planOf c s target ≠ none)
    {text : String}
    (htext : s'.tree.lookup ((c.resolvePath dest).place s.workingDir) = some (.file (.text text))) :
    s'.tree.readText s.workingDir (c.resolvePath dest) = .ok text := by
  obtain ⟨⟨r, l⟩, hplan⟩ := Option.ne_none_iff_exists'.mp hplan
  obtain ⟨dest', b, hdest', -, hlocation, -⟩ := plan_eq_some_iff.mp hplan
  obtain rfl := Option.some.inj (hdest.symm.trans hdest')
  have hreach := (h.plain.fileLocation_eq_ok_iff.mp hlocation).1
  exact hs'.plain.readText_eq_ok_iff.mpr
    ⟨hs'.same.reaches h.plain (h.plain.reaches_look hreach), htext⟩

/-- **Every run starts from fresh sources.** Take targets that keep apart, and compile them with
success. Let the files at their destinations then be written anew with anything or deleted, any
number of times. Compiling the same targets once more succeeds, with the same results, and the
tree that it leaves is the one that the first run left. In particular every destination holds a
text, the same as after the first run. -/
theorem targets_again (h : Apart c s ts) {results : List Compiled}
    (hrun : (targets c ts).run s = (.ok results, s')) (hworking : s₂.workingDir = s.workingDir)
    (hreworked : FileTree.Reworked (· ∈ outputs c s.workingDir ts) s'.tree s₂.tree) :
    ∃ s₃, (targets c ts).run s₂ = (.ok results, s₃) ∧ s₃.tree.lookup = s'.tree.lookup ∧
      ∀ target ∈ ts, ∀ dest, target.dest = some dest → ∃ text,
        s'.tree.readText s.workingDir (c.resolvePath dest) = .ok text ∧
        s₃.tree.readText s.workingDir (c.resolvePath dest) = .ok text := by
  have hplanned := h.planned_of_targets_run (List.Subset.refl ts) h.beside hrun
  have hplaces := h.map_snd_plans hplanned
  have htakes : ∀ l ∈ outputs c s.workingDir ts, s.tree.TakesFile l := by
    intro l hl
    rw [← hplaces] at hl
    obtain ⟨⟨r, _⟩, hmem, rfl⟩ := List.mem_map.mp hl
    obtain ⟨target, -, hplan⟩ := List.mem_filterMap.mp hmem
    exact (plan_outputOf h.plain hplan).2
  -- Both runs carry out the plans of the first tree.
  obtain ⟨s₁, hrun₁, hbeside, hlookup⟩ :=
    h.targets_run_of_planned (List.Subset.refl ts) hplanned h.beside
  obtain ⟨hresults, rfl⟩ := Prod.mk.inj (hrun.symm.trans hrun₁)
  have hbeside₂ := hbeside.reworked htakes hworking hreworked
  obtain ⟨s₃, hrun₃, hbeside₃, hlookup₃⟩ :=
    h.targets_run_of_planned (List.Subset.refl ts) hplanned hbeside₂
  have hsame : s₃.tree.lookup = s'.tree.lookup := by
    rw [hlookup₃, hlookup]
    refine writtenTo_congr fun l hl => ?_
    rw [hplaces] at hl
    exact hbeside₂.same.agrees l fun hwritten => hl hwritten.1
  refine ⟨s₃, ?_, hsame, fun target htarget dest hdest => ?_⟩
  · rw [hrun₃, ← hresults]
  · have hplace : (c.resolvePath dest).place s.workingDir ∈ outputs c s.workingDir ts :=
      List.mem_filterMap.mpr ⟨target, htarget, by rw [outputOf, hdest]; rfl⟩
    rw [← hplaces] at hplace
    obtain ⟨text, htext⟩ := writtenTo_of_mem hplace
    replace htext := (congrFun hlookup _).trans (htext s.tree.lookup)
    have hplan := hplanned target htarget (by simp [hdest])
    exact ⟨text, hbeside.readText h hdest hplan htext,
      hbeside₃.readText h hdest hplan (by rw [hsame, htext])⟩

end Run

/-- Two targets share a destination, and a third has its own. One bundle is emptied between the
runs, and the other one deleted. -/
theorem targets_again_shared :
    let file (text : String) : Node := .file (.text text)
    let s : Session :=
      { tree :=
          { entries := [(["a.js"], file "define([], function () \x7b\n\x7d);\n"),
              (["b.js"], file "b();\n"), (["out"], .directory)] } }
    let c : Config := { baseDir := ⟨"/"⟩ }
    let one : Target := ⟨"one", ["*.js"], some ⟨"out/all.js"⟩, {}⟩
    let two : Target := ⟨"two", ["b.js"], some ⟨"out/all.js"⟩, {}⟩
    let three : Target := ⟨"three", ["a.js"], some ⟨"out/three.js"⟩, {}⟩
    let ts : List Target := [one, two, three]
    let reworked (s₁ : Session) : Session :=
      { s₁ with tree := (s₁.tree.insert ["out", "all.js"] (file "")).erase ["out", "three.js"] }
    ∃ results s₁ s₃, (targets c ts).run s = (.ok results, s₁) ∧
      (targets c ts).run (reworked s₁) = (.ok results, s₃) ∧
      s₃.tree.lookup = s₁.tree.lookup ∧
      s₁.tree.lookup ["out", "all.js"] = some (file "b();\n\n") := by
  intro file s c one two three ts reworked
  have happart : Apart c s ts :=
    ⟨FileTree.plain_of_entries (by decide +kernel) (FileTree.lookup_nil _),
      by decide +kernel, by decide +kernel⟩
  have hsucceeds : ((targets c ts).run s).1.toOption.isSome = true := by decide +kernel
  have hworking : (reworked ((targets c ts).run s).2).workingDir = s.workingDir := by
    decide +kernel
  have houtputs : outputs c s.workingDir ts =
      [["out", "all.js"], ["out", "all.js"], ["out", "three.js"]] := by decide +kernel
  have hreworked (t : FileTree) : FileTree.Reworked (· ∈ outputs c s.workingDir ts) t
      ((t.insert ["out", "all.js"] (file "")).erase ["out", "three.js"]) :=
    .delete (.overwrite (.text "") (.refl t) (by simp [houtputs])) (by simp [houtputs])
  obtain ⟨results, hrun⟩ := Job.exists_of_isSome hsucceeds
  obtain ⟨s₃, hrun₃, hlookup, -⟩ := targets_again happart hrun hworking (hreworked _)
  exact ⟨results, _, s₃, hrun, hrun₃, hlookup, by decide +kernel⟩

end ModuleBundler.Compile
