/-
# ModuleBundler.Proofs.Expansion.Stability -- expansion beside files that come and go

Files may be written while patterns are applied again and again. As long as none of them
is, or would be, among the files that patterns stand for (`lists`), the patterns stand for
the same files (`expand_eq_of_sameOutside`).

A file that is written may well match a pattern and be taken away by a later one. What is
asked of it is that its display path has no place in the meaning of the whole list.
-/

import ModuleBundler.Proofs.Expansion.Display
import ModuleBundler.Proofs.FileTree.Outside

namespace ModuleBundler

open ModuleBundler.Path (IsName isHiddenName)

namespace InputPattern

variable {t t' : FileTree} {workingDir : Location} {base : Path} {p : InputPattern}
  {f : SourcePath} {written : Location → Prop}

/-- A file that a pattern yields stands at the place of its path. -/
theorem Yields.exists_lookup (ht : t.Plain workingDir) (h : Yields t workingDir base p f) :
    ∃ content, t.lookup (f.location.place workingDir) = some (.file content) := by
  cases h with
  | file hfile => exact (ht.isFile_iff.mp hfile).2
  | @glob body _ directory names content _ hdirectory _ _ hvisible hlookup _ =>
    have hnames : ∀ name ∈ names, IsName name ∧ isHiddenName name = false :=
      FileTree.names_of_lookup hlookup hvisible
    obtain ⟨-, hplace, -⟩ := ht.directory?_eq_some_iff.mp hdirectory
    rw [Path.place_below (FileTree.text_ne_empty_of_directory? hdirectory) hnames, ← hplace]
    exact ⟨content, hlookup⟩

/-- A file that a pattern yields in one tree is yielded in the other, if it is there. -/
theorem Yields.of_sameOutside (h : FileTree.SameOutside written t t') (ht : t.Plain workingDir)
    (ht' : t'.Plain workingDir) (hf : Yields t workingDir base p f)
    (hfile : ∃ content, t'.lookup (f.location.place workingDir) = some (.file content)) :
    Yields t' workingDir base p f := by
  cases hf with
  | file hyes =>
    exact .file (ht'.isFile_iff.mpr ⟨h.reaches ht (ht.isFile_iff.mp hyes).1, hfile⟩)
  | @glob body _ directory names content hparse hdirectory hroot hne hvisible hlookup haccepts =>
    have hnames : ∀ name ∈ names, IsName name ∧ isHiddenName name = false :=
      FileTree.names_of_lookup hlookup hvisible
    obtain ⟨-, hplace, -⟩ := ht.directory?_eq_some_iff.mp hdirectory
    obtain ⟨content', hlookup'⟩ := hfile
    rw [Path.place_below (FileTree.text_ne_empty_of_directory? hdirectory) hnames,
      ← hplace] at hlookup'
    rw [← h.directory?_eq ht ht'] at hdirectory
    exact .glob hparse hdirectory hroot hne hvisible hlookup' haccepts

end InputPattern

namespace Expansion

open InputPattern (Yields)

/-! ## Meanings that leave out the same paths -/

section Meaning

variable {yields yields' : InputPattern → SourcePath → Prop} {ps : List InputPattern}
  {files : List SourcePath}

/-- If some display paths have no place for either of two readings of patterns, and the
readings agree on all others, they give patterns the same meaning. -/
theorem Meaning.of_apart {apart : String → Prop}
    (hnone : ∀ display i, apart display → ¬ Survives yields ps display i)
    (hnone' : ∀ display i, apart display → ¬ Survives yields' ps display i)
    (hsame : ∀ p f, ¬ apart f.display → (yields' p f ↔ yields p f))
    (h : Meaning yields ps files) : Meaning yields' ps files := by
  have hsurvives : Survives yields' ps = Survives yields ps := by
    funext display i
    refine propext ?_
    by_cases hapart : apart display
    · exact iff_of_false (hnone' display i hapart) (hnone display i hapart)
    · have hyields (p : InputPattern) (location : Path) :
          yields' p ⟨display, location⟩ ↔ yields p ⟨display, location⟩ :=
        hsame p ⟨display, location⟩ hapart
      simp only [Survives, hyields]
  have hplace : Place yields' ps = Place yields ps := by
    funext display i
    rw [Place, Place, hsurvives]
  have hprecedes : Precedes yields' ps = Precedes yields ps := by
    funext f g
    rw [Precedes, Precedes, hplace]
  constructor
  case displayed =>
    rw [hsurvives]
    exact h.displayed
  case distinct => exact h.distinct
  case ordered =>
    rw [hprecedes]
    exact h.ordered
  case located =>
    intro f hf
    obtain ⟨i, p, hi, hp, hfound⟩ := h.located f hf
    refine ⟨i, p, hplace ▸ hi, hp, fun location => ?_⟩
    rw [← hfound location]
    exact hsame p ⟨f.display, location⟩ fun hapart => hnone _ i hapart hi.1

end Meaning

/-! ## Files that are written -/

/-- Whether one of the files that patterns stand for is at a location. -/
def lists (t : FileTree) (workingDir : Location) (base : Path) (patterns : List String)
    (l : Location) : Bool :=
  match expand t workingDir base patterns with
  | .ok files => files.any fun f => f.location.place workingDir == l
  | .error _ => false

theorem lists_of_mem {t : FileTree} {workingDir : Location} {base : Path} {patterns : List String}
    {files : List SourcePath} {f : SourcePath}
    (hexpand : expand t workingDir base patterns = .ok files) (hf : f ∈ files) :
    lists t workingDir base patterns (f.location.place workingDir) = true := by
  rw [lists, hexpand]
  exact List.any_eq_true.mpr ⟨f, hf, beq_self_eq_true _⟩

section Written

variable {t t' : FileTree} {workingDir : Location} {base : Path} {patterns : List String}
  {written : Location → Prop}

/-- What patterns would list is judged in a tree with an empty file there. -/
def WouldList (t : FileTree) (workingDir : Location) (base : Path) (patterns : List String)
    (l : Location) : Prop :=
  lists (t.insert l (.file (.text ""))) workingDir base patterns l = true

instance (l : Location) : Decidable (WouldList t workingDir base patterns l) :=
  inferInstanceAs (Decidable (_ = true))

/-- A display path that stands for a written file has no place, if patterns would not list
the file. -/
theorem not_survives_of_written (h : t.SameOutside written t') (ht : t.Plain workingDir)
    (ht' : t'.Plain workingDir)
    (hread : ∀ text ∈ patterns, (InputPattern.ofText text.toList).mistake? = none)
    (hunlisted : ∀ l, written l → ¬ WouldList t workingDir base patterns l)
    (display : String) (i : Nat)
    (hwritten : written ((⟨display⟩ : Path).place (base.place workingDir))) :
    ¬ Survives (Yields t' workingDir base)
        (patterns.map fun text => .ofText text.toList) display i := by
  rintro ⟨⟨p, location, hp, hyields⟩, hlater⟩
  -- Were the file there, and nothing else changed, the pattern would yield it there.
  have htakes := h.takes _ hwritten
  have hfull := ht.insert htakes (.text "")
  have hsame := h.symm.trans ((FileTree.SameOutside.refl h.takes).insert hwritten (.text ""))
  have hyields' := hyields.of_sameOutside hsame ht' hfull
    ⟨.text "", by rw [hyields.place_location]; exact htakes.lookup_self _⟩
  obtain ⟨files, hexpand, hmeaning⟩ := exists_expand workingDir base hread
  obtain ⟨g, hg, hdisplay⟩ := List.mem_map.mp
    ((hmeaning.displayed display).mpr ⟨i, ⟨p, location, hp, hyields'⟩, hlater⟩)
  obtain ⟨j, q, -, -, hfound⟩ := hmeaning.located g hg
  have hplace := ((hfound _).mpr rfl).place_location workingDir
  have hlisted := lists_of_mem hexpand hg
  rw [hplace, hdisplay] at hlisted
  exact hunlisted _ hwritten hlisted

/-- Patterns stand for the same files, whatever files are written that they do not list. -/
theorem expand_eq_of_sameOutside (h : t.SameOutside written t') (ht : t.Plain workingDir)
    (ht' : t'.Plain workingDir)
    (hunlisted : ∀ l, written l → ¬ WouldList t workingDir base patterns l) :
    expand t' workingDir base patterns = expand t workingDir base patterns := by
  by_cases hread : ∀ text ∈ patterns, (InputPattern.ofText text.toList).mistake? = none
  · obtain ⟨files, hexpand, hmeaning⟩ := exists_expand workingDir base hread
    obtain ⟨files', hexpand', hmeaning'⟩ := exists_expand workingDir base hread
    have hsame : Meaning (Yields t' workingDir base)
        (patterns.map fun text => .ofText text.toList) files := by
      refine hmeaning.of_apart
        (fun display i => not_survives_of_written (.refl h.takes) ht ht hread hunlisted display i)
        (fun display i => not_survives_of_written h ht ht' hread hunlisted display i) ?_
      intro p f hapart
      constructor
      · intro hf
        rw [← hf.place_location] at hapart
        refine hf.of_sameOutside h.symm ht' ht ?_
        rw [← h.agrees _ hapart]
        exact hf.exists_lookup ht'
      · intro hf
        rw [← hf.place_location] at hapart
        refine hf.of_sameOutside h ht ht' ?_
        rw [h.agrees _ hapart]
        exact hf.exists_lookup ht
    rw [hexpand, hexpand', hmeaning'.unique hsame]
  · -- A pattern that cannot be read fails in every tree, by the same mistake.
    have hps : (patterns.map fun text => InputPattern.ofText text.toList).findSome?
        InputPattern.mistake? ≠ none := by
      intro hnone
      refine hread fun text htext => ?_
      exact List.findSome?_eq_none_iff.mp hnone _ (List.mem_map_of_mem htext)
    obtain ⟨e, he⟩ := Option.ne_none_iff_exists'.mp hps
    rw [expand_eq_foldlM, expand_eq_foldlM, foldlM_applyPattern_of_mistake he,
      foldlM_applyPattern_of_mistake he]

/-- No file that patterns stand for is one that is written. -/
theorem not_written_of_mem (ht : t.Plain workingDir) (htakes : ∀ l, written l → t.TakesFile l)
    (hunlisted : ∀ l, written l → ¬ WouldList t workingDir base patterns l)
    {files : List SourcePath} (hexpand : expand t workingDir base patterns = .ok files)
    {f : SourcePath} (hf : f ∈ files) : ¬ written (f.location.place workingDir) := by
  obtain ⟨hread, hmeaning⟩ := meaning_of_expand hexpand
  obtain ⟨i, p, hi, -, hfound⟩ := hmeaning.located f hf
  rw [((hfound _).mpr rfl).place_location]
  intro hwritten
  exact not_survives_of_written (.refl htakes) ht ht hread hunlisted f.display i hwritten hi.1

end Written

end Expansion

end ModuleBundler
