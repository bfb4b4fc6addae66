/-
# ModuleBundler.Proofs.Watch.Inputs -- changes of the files that are bundled

Expansion passes over hidden files where it walks, and nowhere else: what a pattern spells
out may be hidden. The watch ignores every hidden name below the base directory. The two
agree for an input none of whose names is hidden, and for no other
(`isRelevant_input_iff`); a hidden name of an input is one that a pattern spells out.
-/

import ModuleBundler.Proofs.Expansion.Display
import ModuleBundler.Watch.Filter

namespace ModuleBundler.Watch

open ModuleBundler.Path (Component isHiddenName)

/-- A path below the watched directory is hidden if it is by what stands behind that directory. -/
theorem isHidden_join (scope : Scope) {p : Path} (hp : p.isAbsolute = false) :
    scope.isHidden (scope.root.join p) = p.course.any Component.isHidden := by
  obtain ⟨behind, hcomponents, hbehind⟩ := Path.exists_components_join scope.root hp
  have hpassed : Path.componentsBehind? scope.root (scope.root.join p) = some behind := by
    rw [Path.componentsBehind?, hcomponents, List.drop_left, if_pos]
    exact List.isPrefixOf_iff_prefix.mpr (List.prefix_append _ _)
  rw [Scope.isHidden, hpassed, Option.getD_some, ← hbehind, Path.any_isHidden_filter]

/-- A hidden name of an input is spelled out by a pattern. -/
theorem exists_spelled_of_isHidden {t : FileTree} {workingDir : Location}
    {base : Path} {patterns : List String} {files : List SourcePath} {f : SourcePath}
    (hexpand : Expansion.expand t workingDir base patterns = .ok files) (hf : f ∈ files)
    {c : Component} (hc : c ∈ (⟨f.display⟩ : Path).course) (hhidden : c.isHidden = true) :
    ∃ text ∈ patterns, c ∈ (InputPattern.ofText text.toList).spelled.course := by
  obtain ⟨-, hmeaning⟩ := Expansion.meaning_of_expand hexpand
  obtain ⟨i, p, -, hp, hlocation⟩ := hmeaning.located f hf
  obtain ⟨text, htext, rfl⟩ := List.mem_map.mp (List.mem_of_getElem? hp)
  obtain ⟨names, hvisible, hdisplay, -⟩ := ((hlocation _).mpr rfl).exists_names
  refine ⟨text, htext, ?_⟩
  rw [hdisplay] at hc
  rcases List.mem_append.mp hc with hspelled | hname
  · exact hspelled
  · obtain ⟨name, hmem, rfl⟩ := List.mem_map.mp hname
    exact absurd hhidden (by simp [Component.isHidden, hvisible name hmem])

/-- **Which changes of inputs are seen.** Take an input of a bundle whose display path is
relative, and a change of its content that is reported at this path below the base directory.
The change is relevant exactly if the file is none of the outputs and no name of its display
path is hidden. A hidden name is always one that a pattern spells out, so that every input is
watched where no pattern does so. -/
theorem isRelevant_input_iff {t : FileTree} {workingDir : Location}
    {base : Path} {patterns : List String} {files : List SourcePath} {f : SourcePath}
    (hexpand : Expansion.expand t workingDir base patterns = .ok files) (hf : f ∈ files)
    (hrelative : (⟨f.display⟩ : Path).isAbsolute = false) {kind : ChangeKind}
    (hkind : kind = .create ∨ kind = .modify ∨ kind = .remove) (outputs : List Path) :
    let scope : Scope := ⟨base, outputs⟩
    let path := base.join ⟨f.display⟩
    (scope.isRelevant (.change kind [path]) = true ↔
      scope.isOutput path = false ∧ ∀ c ∈ (⟨f.display⟩ : Path).course, c.isHidden = false) ∧
    ∀ c ∈ (⟨f.display⟩ : Path).course, c.isHidden = true →
      ∃ text ∈ patterns, c ∈ (InputPattern.ofText text.toList).spelled.course := by
  intro scope path
  have hhidden : scope.isHidden path = _ := isHidden_join scope hrelative
  have hcontent : Scope.isContentChange kind = true := by
    rcases hkind with rfl | rfl | rfl <;> rfl
  refine ⟨?_, fun c hc => exists_spelled_of_isHidden hexpand hf hc⟩
  simp [Scope.isRelevant, hcontent, hhidden]

/-- The change of an input that a glob found is seen, and that of an output is not. -/
theorem isRelevant_input_found :
    let t : FileTree :=
      { entries := [(["p"], .directory), (["p", "a.js"], .file (.text "")),
          (["p", "out.js"], .file (.text ""))] }
    let scope : Scope := ⟨⟨"/p"⟩, [⟨"/p/out.js"⟩]⟩
    let files : List SourcePath := [⟨"a.js", ⟨"/p/a.js"⟩⟩, ⟨"out.js", ⟨"/p/out.js"⟩⟩]
    Expansion.expand t [] ⟨"/p"⟩ ["*.js"] = .ok files ∧
      scope.isRelevant (.change .modify [(⟨"/p"⟩ : Path).join ⟨"a.js"⟩]) = true ∧
      scope.isRelevant (.change .remove [(⟨"/p"⟩ : Path).join ⟨"out.js"⟩]) = false := by
  intro t scope files
  have hexpand : Expansion.expand t [] ⟨"/p"⟩ ["*.js"] = .ok files := by decide +kernel
  refine ⟨hexpand, ?_, ?_⟩
  · refine (isRelevant_input_iff hexpand (f := ⟨"a.js", ⟨"/p/a.js"⟩⟩) (by simp [files])
      (by decide +kernel) (.inr (.inl rfl)) [⟨"/p/out.js"⟩]).1.mpr ⟨by decide +kernel, ?_⟩
    decide +kernel
  · refine Bool.eq_false_iff.mpr fun h => ?_
    have houtput := ((isRelevant_input_iff hexpand (f := ⟨"out.js", ⟨"/p/out.js"⟩⟩)
      (by simp [files]) (by decide +kernel) (.inr (.inr rfl)) [⟨"/p/out.js"⟩]).1.mp h).1
    exact absurd houtput (by decide +kernel)

/-- Inputs that patterns spell out may be hidden, and their changes are not seen. -/
theorem hidden_input_not_relevant :
    let t : FileTree :=
      { entries := [(["p"], .directory), (["p", ".conf"], .directory),
          (["p", ".conf", "a.js"], .file (.text "")), (["p", ".b.js"], .file (.text ""))] }
    let scope : Scope := ⟨⟨"/p"⟩, []⟩
    let files : List SourcePath := [⟨".conf/a.js", ⟨"/p/.conf/a.js"⟩⟩, ⟨".b.js", ⟨"/p/.b.js"⟩⟩]
    Expansion.expand t [] ⟨"/p"⟩ [".conf/*.js", ".b.js"] = .ok files ∧
      ∀ f ∈ files, (⟨f.display⟩ : Path).isAbsolute = false ∧
        .up ∉ (⟨f.display⟩ : Path).components ∧
        scope.isOutput ((⟨"/p"⟩ : Path).join ⟨f.display⟩) = false ∧
        ∀ kind ∈ [ChangeKind.create, .modify, .remove],
          scope.isRelevant (.change kind [(⟨"/p"⟩ : Path).join ⟨f.display⟩]) = false := by
  decide +kernel

end ModuleBundler.Watch
