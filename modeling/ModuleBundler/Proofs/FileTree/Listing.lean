/-
# ModuleBundler.Proofs.FileTree.Listing -- what a walk lists

A walk lists the entries of a tree in the order in which the tree keeps them. Which
files it lists can be said by look-ups alone (`mem_visibleFiles`), and so can what a
path leads to: two trees in which every look-up finds the same are the same to whoever
follows paths.
-/

import ModuleBundler.FileTree.Walk
import ModuleBundler.Proofs.FileTree.Lookup

namespace ModuleBundler.FileTree

open ModuleBundler.Path (isHiddenName)

/-! ## What is made of look-ups -/

section Congruence

variable {t t' : FileTree} (h : t'.lookup = t.lookup)
include h

theorem walkSteps_congr (purpose : Purpose)
    (onLink : Location → String → List Step → Except IoError Destination) (l : Location)
    (steps : List Step) :
    t'.walkSteps purpose onLink l steps = t.walkSteps purpose onLink l steps := by
  induction steps generalizing l with
  | nil => simp only [walkSteps]
  | cons step rest ih => cases step <;> simp only [walkSteps, h, ih]

theorem follow_congr (purpose : Purpose) (links : Nat) (l : Location) (steps : List Step) :
    t'.follow purpose links l steps = t.follow purpose links l steps := by
  induction links generalizing l steps with
  | zero => exact walkSteps_congr h purpose _ l steps
  | succ links ih =>
    simp only [follow, ih]
    exact walkSteps_congr h purpose _ l steps

theorem find_congr (workingDir : Location) (p : Path) :
    t'.find workingDir p = t.find workingDir p := by
  simp only [find, destination, follow_congr h]

theorem isFile_congr (workingDir : Location) (p : Path) :
    t'.isFile workingDir p = t.isFile workingDir p := by
  simp only [isFile, find_congr h]

theorem directory?_congr (workingDir : Location) (p : Path) :
    t'.directory? workingDir p = t.directory? workingDir p := by
  simp only [directory?, find_congr h]

end Congruence

/-! ## Walks -/

/-- The empty path leads to no directory. -/
theorem text_ne_empty_of_directory? {t : FileTree} {workingDir l : Location} {p : Path}
    (h : t.directory? workingDir p = some l) : p.text ≠ "" := by
  rintro hempty
  have hfault : p.fault? = some .notFound := by simp [Path.fault?, hempty]
  simp [directory?, find, destination, hfault] at h

theorem namesBelow?_eq_some_iff {directory l : Location} {names : List String} :
    namesBelow? directory l = some names ↔ l = directory ++ names ∧ names ≠ [] := by
  unfold namesBelow?
  constructor
  · intro h
    split at h
    · next hcond =>
      obtain ⟨hfront, hlt⟩ : directory <+: l ∧ directory.length < l.length := by simpa using hcond
      obtain ⟨further, rfl⟩ := hfront
      obtain rfl : further = names := by simpa using h
      refine ⟨rfl, ?_⟩
      rintro rfl
      simp at hlt
    · cases h
  · rintro ⟨rfl, hne⟩
    have hlt := List.length_pos_iff.mpr hne
    simp [hlt]

/-- A walk lists the names that lead to a file, none of them hidden. -/
theorem mem_visibleFiles {t : FileTree} {directory : Location} {names : List String} :
    names ∈ t.visibleFiles directory ↔
      names ≠ [] ∧ (∀ name ∈ names, isHiddenName name = false) ∧
        ∃ content, t.lookup (directory ++ names) = some (.file content) := by
  unfold visibleFiles
  rw [List.mem_filterMap]
  constructor
  · rintro ⟨⟨l, node⟩, hentry, hlisted⟩
    split at hlisted
    · next found content hbelow hfile =>
      obtain ⟨rfl, hne⟩ := namesBelow?_eq_some_iff.mp hbelow
      split at hlisted
      · cases hlisted
      · next hvisible =>
        obtain rfl := Option.some.inj hlisted
        refine ⟨hne, by simpa using hvisible, content, ?_⟩
        rw [lookup_eq_some_iff (by simp [hne]), ← hfile]
        exact hentry
    · cases hlisted
  · rintro ⟨hne, hvisible, content, hlookup⟩
    rw [lookup_eq_some_iff (by simp [hne])] at hlookup
    refine ⟨_, hlookup, ?_⟩
    rw [namesBelow?_eq_some_iff.mpr ⟨rfl, hne⟩]
    simpa using hvisible

/-- Names that lead to something are names, whether they are hidden or not. -/
theorem names_of_lookup {t : FileTree} {directory : Location} {names : List String}
    {node : Node} (hlookup : t.lookup (directory ++ names) = some node)
    (hvisible : ∀ name ∈ names, isHiddenName name = false) :
    ∀ name ∈ names, Path.IsName name ∧ isHiddenName name = false := by
  intro name hname
  exact ⟨isNamed_of_lookup hlookup name (List.mem_append_right _ hname), hvisible name hname⟩

end ModuleBundler.FileTree
