/-
# ModuleBundler.Proofs.Expansion.Yield -- what one pattern stands for

`Yields` says which files a pattern adds, and under which display paths, by what the
tree holds: no walk, no sorting, no order of entries. `found` agrees with it
(`mem_found_iff`), and sorts by display path (`found_pairwise`).

A pattern shows two files in two ways (`Yields.unique`), so that a
display path stands for one file of the pattern.
-/

import Mathlib.Data.List.Sort
import Mathlib.Data.String.Basic
import ModuleBundler.Expansion
import ModuleBundler.Proofs.FileTree.Listing
import ModuleBundler.Proofs.Path.Naming

namespace ModuleBundler

open ModuleBundler.Path (IsName isHiddenName)

/-! ## Declarative patterns -/

namespace InputPattern

/-- Why a pattern cannot be read, if it cannot. -/
def mistake? : InputPattern → Option Failure
  | .file _ => none
  | .exclude body | .glob body =>
    match Expansion.parseGlob body with
    | .ok _ => none
    | .error e => some e

/-- A pattern takes a display path away: it is behind a `!` and matches the path. -/
def Excludes : InputPattern → String → Prop
  | .exclude body, display =>
    ∃ tokens, Glob.parse body = .ok tokens ∧ Glob.accepts tokens display = true
  | _, _ => False

/-- The directory below which a glob is looked for, seen from the base directory. -/
def walkRoot (base : Path) (glob : List Char) : Path :=
  base.join (literalPrefix glob)

/-- How the file that names lead to from there is shown. -/
def shown (base : Path) (glob : List Char) (names : List String) : String :=
  Expansion.displayOf base (glob.head? == some '/') ((walkRoot base glob).below names)

/-- A pattern yields a file under its display path. A glob yields every file below its
directory whose names are not hidden and whose display path it matches. -/
inductive Yields (t : FileTree) (workingDir : Location) (base : Path) :
    InputPattern → SourcePath → Prop
  | file {path : List Char} :
      t.isFile workingDir (base.join ⟨String.ofList path⟩) = true →
      Yields t workingDir base (.file path)
        ⟨Path.normalText ⟨String.ofList path⟩, base.join ⟨String.ofList path⟩⟩
  | glob {glob : List Char} {tokens : List Glob.Token} {directory : Location}
      {names : List String} {content : Content} :
      Glob.parse glob = .ok tokens →
      t.directory? workingDir (walkRoot base glob) = some directory →
      (walkRoot base glob).components ≠ [.name "-"] →
      names ≠ [] → (∀ name ∈ names, isHiddenName name = false) →
      t.lookup (directory ++ names) = some (.file content) →
      Glob.accepts tokens (shown base glob names) = true →
      Yields t workingDir base (.glob glob)
        ⟨shown base glob names, (walkRoot base glob).below names⟩

variable {t t' : FileTree} {workingDir : Location} {base : Path} {p : InputPattern}
  {f g : SourcePath}

/-- What a pattern yields depends on look-ups only. -/
theorem Yields.congr (h : t'.lookup = t.lookup) (hyields : Yields t workingDir base p f) :
    Yields t' workingDir base p f := by
  cases hyields with
  | file hfile => exact .file (by rw [FileTree.isFile_congr h, hfile])
  | glob hparse hdirectory hroot hne hvisible hlookup haccepts =>
    rw [← FileTree.directory?_congr h] at hdirectory
    rw [← h] at hlookup
    exact .glob hparse hdirectory hroot hne hvisible hlookup haccepts

theorem Yields.eq_of_lookup_eq (h : t'.lookup = t.lookup) :
    Yields t' workingDir base = Yields t workingDir base := by
  funext p f
  exact propext ⟨Yields.congr h.symm, Yields.congr h⟩

/-! ## Display paths -/

/-- A glob that is not absolute is looked for below a path that is not absolute. -/
theorem isAbsolute_literalPrefix {glob : List Char} (h : (glob.head? == some '/') = false) :
    (literalPrefix glob).isAbsolute = false := by
  unfold literalPrefix Path.isAbsolute
  rw [if_neg (by simp [h]), String.toList_ofList, List.nil_append]
  generalize hliteral : List.takeWhile _ _ = literal
  cases literal with
  | nil => rfl
  | cons segment rest =>
    have hmem : segment ∈ (Text.splitOn '/' glob).filter (· ≠ []) := by
      have htaken : segment ∈ segment :: rest := List.mem_cons_self
      rw [← hliteral] at htaken
      exact List.dropLast_subset _ ((List.takeWhile_prefix _).subset htaken)
    obtain ⟨hsplit, hne⟩ := List.mem_filter.mp hmem
    obtain ⟨c, more, rfl⟩ := List.exists_cons_of_ne_nil (by simpa using hne)
    have hc : c ≠ '/' := by
      rintro rfl
      exact Text.not_mem_of_mem_splitOn hsplit List.mem_cons_self
    cases rest <;> simp [Text.joinWith, hc]

/-- The base directory is passed before the names of a glob that is not absolute begin. -/
theorem componentsBehind?_below {glob : List Char} {names : List String}
    (hrelative : (glob.head? == some '/') = false) (hroot : (walkRoot base glob).text ≠ "")
    (hnames : ∀ name ∈ names, IsName name ∧ isHiddenName name = false) :
    Path.componentsBehind? base ((walkRoot base glob).below names) =
      some ((walkRoot base glob).components.drop base.components.length ++ names.map .name) := by
  have hfront : base.components <+: (walkRoot base glob).components :=
    Path.components_isPrefix_join (isAbsolute_literalPrefix hrelative)
  rw [Path.componentsBehind?, Path.components_below hroot hnames, if_pos,
    List.drop_append_of_le_length hfront.length_le]
  exact List.isPrefixOf_iff_prefix.mpr (hfront.trans (List.prefix_append _ _))

/-- Different files of one glob are shown in different ways. -/
theorem shown_inj {glob : List Char} {names names' : List String}
    (hroot : (walkRoot base glob).text ≠ "")
    (hne : names ≠ []) (hnames : ∀ name ∈ names, IsName name ∧ isHiddenName name = false)
    (hne' : names' ≠ []) (hnames' : ∀ name ∈ names', IsName name ∧ isHiddenName name = false)
    (h : shown base glob names = shown base glob names') : names = names' := by
  have hcomponents := Path.components_below hroot hnames
  have hcomponents' := Path.components_below hroot hnames'
  have hproper : ∀ name ∈ names, IsName name := fun n hn => (hnames n hn).1
  have hproper' : ∀ name ∈ names', IsName name := fun n hn => (hnames' n hn).1
  unfold shown Expansion.displayOf at h
  cases habsolute : glob.head? == some '/' with
  | true =>
    rw [habsolute, if_pos rfl, if_pos rfl, Path.normalText, Path.normalText, hcomponents,
      hcomponents'] at h
    exact Path.textOfComponents_append_names_inj hne hproper hne' hproper' h
  | false =>
    rw [habsolute, if_neg (by simp), if_neg (by simp),
      componentsBehind?_below habsolute hroot hnames,
      componentsBehind?_below habsolute hroot hnames'] at h
    exact Path.textOfComponents_append_names_inj hne hproper hne' hproper' h

/-- A pattern yields one file under a display path. -/
theorem Yields.unique (hf : Yields t workingDir base p f)
    (hg : Yields t workingDir base p g) (h : f.display = g.display) : f = g := by
  cases hf with
  | file _ =>
    cases hg
    rfl
  | @glob body _ _ names _ _ hdirectory _ hne hvisible hlookup _ =>
    cases hg with
    | @glob _ _ _ names' _ _ _ _ hne' hvisible' hlookup' _ =>
      have hproper : ∀ name ∈ names, IsName name ∧ isHiddenName name = false :=
        FileTree.names_of_lookup hlookup hvisible
      have hproper' : ∀ name ∈ names', IsName name ∧ isHiddenName name = false :=
        FileTree.names_of_lookup hlookup' hvisible'
      rw [shown_inj (FileTree.text_ne_empty_of_directory? hdirectory) hne hproper hne' hproper' h]

end InputPattern

namespace Expansion

open InputPattern (Yields walkRoot shown)

/-! ## What is found -/

theorem parseGlob_eq_ok_iff {glob : List Char} {tokens : List Glob.Token} :
    parseGlob glob = .ok tokens ↔ Glob.parse glob = .ok tokens := by
  unfold parseGlob
  cases Glob.parse glob <;> simp

theorem mem_insertSorted {f g : SourcePath} {files : List SourcePath} :
    f ∈ insertSorted g files ↔ f = g ∨ f ∈ files := by
  induction files with
  | nil => simp [insertSorted]
  | cons h rest ih =>
    rw [insertSorted]
    split
    · simp
    · rw [List.mem_cons, ih, List.mem_cons]
      tauto

theorem mistake?_eq_some_iff {body : List Char} {e : Failure} :
    (InputPattern.exclude body).mistake? = some e ↔ parseGlob body = .error e := by
  cases hparse : parseGlob body <;> simp [InputPattern.mistake?, hparse]

theorem mistake?_eq_none_iff {body : List Char} :
    (InputPattern.exclude body).mistake? = none ↔ ∃ tokens, parseGlob body = .ok tokens := by
  cases hparse : parseGlob body <;> simp [InputPattern.mistake?, hparse]

/-- Sorting keeps the files and nothing else. -/
theorem mem_sortByDisplay {f : SourcePath} {files : List SourcePath} :
    f ∈ sortByDisplay files ↔ f ∈ files := by
  induction files with
  | nil => exact Iff.rfl
  | cons g rest ih =>
    show f ∈ insertSorted g (sortByDisplay rest) ↔ _
    rw [mem_insertSorted, ih, List.mem_cons]

theorem insertSorted_pairwise {g : SourcePath} {files : List SourcePath}
    (h : files.Pairwise fun f g => f.display ≤ g.display) :
    (insertSorted g files).Pairwise fun f g => f.display ≤ g.display := by
  induction files with
  | nil => exact List.pairwise_singleton _ g
  | cons f rest ih =>
    obtain ⟨hfirst, hrest⟩ := List.pairwise_cons.mp h
    rw [insertSorted]
    split
    · next hlt =>
      refine List.pairwise_cons.mpr ⟨?_, h⟩
      intro other hother
      rcases List.mem_cons.mp hother with rfl | hmem
      · exact hlt.le
      · exact hlt.le.trans (hfirst other hmem)
    · next hge =>
      refine List.pairwise_cons.mpr ⟨?_, ih hrest⟩
      intro other hother
      rcases mem_insertSorted.mp hother with rfl | hmem
      · exact not_lt.mp hge
      · exact hfirst other hmem

theorem sortByDisplay_pairwise (files : List SourcePath) :
    (sortByDisplay files).Pairwise fun f g => f.display ≤ g.display := by
  induction files with
  | nil => exact List.Pairwise.nil
  | cons f rest ih => exact insertSorted_pairwise ih

variable {t : FileTree} {workingDir : Location} {base : Path} {f : SourcePath}

theorem filesFor_eq_nil {glob : List Char}
    (h : t.directory? workingDir (walkRoot base glob) = none ∨
      (walkRoot base glob).components = [Path.Component.name "-"]) :
    filesFor t workingDir base glob = [] := by
  unfold filesFor
  dsimp only
  split
  · rfl
  · next directory hdirectory =>
    rcases h with hnone | hroot
    · exact absurd (hdirectory.symm.trans hnone) (by simp)
    · exact if_pos hroot

theorem filesFor_eq_map {glob : List Char} {directory : Location}
    (hdirectory : t.directory? workingDir (walkRoot base glob) = some directory)
    (hroot : (walkRoot base glob).components ≠ [Path.Component.name "-"]) :
    filesFor t workingDir base glob = (t.visibleFiles directory).map fun names =>
      ⟨shown base glob names, (walkRoot base glob).below names⟩ := by
  unfold filesFor
  dsimp only
  split
  · next hnone => exact absurd (hnone.symm.trans hdirectory) (by simp)
  · next found hfound =>
    obtain rfl := Option.some.inj (hfound.symm.trans hdirectory)
    exact if_neg hroot

/-- The files below a directory, as a glob shows them. -/
theorem mem_filesFor_iff {glob : List Char} :
    f ∈ filesFor t workingDir base glob ↔
      ∃ directory names content, t.directory? workingDir (walkRoot base glob) = some directory ∧
        (walkRoot base glob).components ≠ [Path.Component.name "-"] ∧ names ≠ [] ∧
        (∀ name ∈ names, isHiddenName name = false) ∧
        t.lookup (directory ++ names) = some (.file content) ∧
        f = ⟨shown base glob names, (walkRoot base glob).below names⟩ := by
  constructor
  · intro hmem
    cases hdirectory : t.directory? workingDir (walkRoot base glob) with
    | none =>
      rw [filesFor_eq_nil (.inl hdirectory)] at hmem
      cases hmem
    | some directory =>
      by_cases hroot : (walkRoot base glob).components = [Path.Component.name "-"]
      · rw [filesFor_eq_nil (.inr hroot)] at hmem
        cases hmem
      · rw [filesFor_eq_map hdirectory hroot] at hmem
        obtain ⟨names, hnames, rfl⟩ := List.mem_map.mp hmem
        obtain ⟨hne, hvisible, content, hlookup⟩ := FileTree.mem_visibleFiles.mp hnames
        exact ⟨directory, names, content, rfl, hroot, hne, hvisible, hlookup, rfl⟩
  · rintro ⟨directory, names, content, hdirectory, hroot, hne, hvisible, hlookup, rfl⟩
    rw [filesFor_eq_map hdirectory hroot]
    have hnames := FileTree.mem_visibleFiles.mpr ⟨hne, hvisible, content, hlookup⟩
    exact List.mem_map.mpr ⟨names, hnames, rfl⟩

theorem found_glob {glob : List Char} {tokens : List Glob.Token}
    (h : parseGlob glob = .ok tokens) :
    found t workingDir base (.glob glob) =
      .ok (sortByDisplay ((filesFor t workingDir base glob).filter fun file =>
        Glob.accepts tokens file.display)) := by
  rw [found, h]
  rfl

theorem found_glob_of_error {glob : List Char} {e : Failure} (h : parseGlob glob = .error e) :
    found t workingDir base (.glob glob) = .error e := by
  rw [found, h]
  rfl

/-- What a pattern finds is what it yields. -/
theorem mem_found_iff {p : InputPattern} {files : List SourcePath}
    (h : found t workingDir base p = .ok files) : f ∈ files ↔ Yields t workingDir base p f := by
  cases p with
  | exclude body =>
    obtain rfl := Except.ok.inj h
    constructor
    · intro hmem
      cases hmem
    · intro hyields
      cases hyields
  | file path =>
    simp only [found] at h
    split at h
    · next hfile =>
      obtain rfl := Except.ok.inj h
      constructor
      · intro hmem
        rw [List.mem_singleton.mp hmem]
        exact .file hfile
      · intro hyields
        cases hyields
        exact List.mem_singleton_self _
    · next hfile =>
      obtain rfl := Except.ok.inj h
      constructor
      · intro hmem
        cases hmem
      · intro hyields
        cases hyields with
        | file hyes => exact absurd hyes hfile
  | glob body =>
    cases hparse : parseGlob body with
    | error e =>
      rw [found_glob_of_error hparse] at h
      cases h
    | ok tokens =>
      rw [found_glob hparse] at h
      obtain rfl := Except.ok.inj h
      rw [parseGlob_eq_ok_iff] at hparse
      rw [mem_sortByDisplay, List.mem_filter, mem_filesFor_iff]
      constructor
      · rintro ⟨⟨_, _, _, hdirectory, hroot, hne, hvisible, hlookup, rfl⟩, haccepts⟩
        exact .glob hparse hdirectory hroot hne hvisible hlookup haccepts
      · intro hyields
        cases hyields with
        | glob hparse' hdirectory hroot hne hvisible hlookup haccepts =>
          obtain rfl := Except.ok.inj (hparse.symm.trans hparse')
          exact ⟨⟨_, _, _, hdirectory, hroot, hne, hvisible, hlookup, rfl⟩, haccepts⟩

/-- What a pattern finds is sorted by display path. -/
theorem found_pairwise {p : InputPattern} {files : List SourcePath}
    (h : found t workingDir base p = .ok files) :
    files.Pairwise fun f g => f.display ≤ g.display := by
  cases p with
  | exclude body =>
    obtain rfl := Except.ok.inj h
    exact List.Pairwise.nil
  | file path =>
    simp only [found] at h
    split at h
    · obtain rfl := Except.ok.inj h
      exact List.pairwise_singleton _ _
    · obtain rfl := Except.ok.inj h
      exact List.Pairwise.nil
  | glob body =>
    cases hparse : parseGlob body with
    | error e =>
      rw [found_glob_of_error hparse] at h
      cases h
    | ok tokens =>
      rw [found_glob hparse] at h
      obtain rfl := Except.ok.inj h
      exact sortByDisplay_pairwise _

end Expansion

end ModuleBundler
