/-
# ModuleBundler.Proofs.Expansion.Display -- display paths and the files they show

A pattern spells out a path: that of its file, or the directories in front of the first
glob mark. A file that the pattern yields is shown by what is spelled out and the names
that a walk goes on by (`Yields.exists_names`), and read below the base directory at its
display path (`Yields.course_location`).
-/

import ModuleBundler.Proofs.Expansion.Meaning
import ModuleBundler.Proofs.Path.Course

namespace ModuleBundler

open ModuleBundler.Path (IsName isHiddenName Component)

namespace InputPattern

/-- The path that a pattern spells out. -/
def spelled : InputPattern → Path
  | .exclude _ => ⟨""⟩
  | .file path => ⟨String.ofList path⟩
  | .glob body => literalPrefix body

variable {t : FileTree} {workingDir : Location} {base : Path} {p : InputPattern} {f : SourcePath}

/-- A glob spells out an absolute path if it is absolute itself. -/
theorem isAbsolute_literalPrefix_eq (glob : List Char) :
    (literalPrefix glob).isAbsolute = (glob.head? == some '/') := by
  cases habsolute : glob.head? == some '/' with
  | false => exact isAbsolute_literalPrefix habsolute
  | true => simp [literalPrefix, habsolute, Path.isAbsolute]

/-- A file that a glob finds is shown by what the glob spells out and the names behind. -/
theorem shown_eq {glob : List Char} {names : List String}
    (hroot : (walkRoot base glob).text ≠ "")
    (hnames : ∀ name ∈ names, IsName name ∧ isHiddenName name = false) :
    shown base glob names =
      Path.textOfComponents ((literalPrefix glob).course ++ names.map .name) := by
  unfold shown Expansion.displayOf
  cases habsolute : glob.head? == some '/' with
  | true =>
    rw [if_pos rfl, Path.normalText, ← Path.textOfComponents_filter, ← Path.course,
      Path.course_below hroot hnames, walkRoot, Path.course_join, isAbsolute_literalPrefix_eq,
      habsolute, if_pos rfl]
  | false =>
    obtain ⟨behind, hcomponents, hbehind⟩ :=
      Path.exists_components_join base (isAbsolute_literalPrefix habsolute)
    have hdropped : (walkRoot base glob).components.drop base.components.length = behind := by
      rw [walkRoot, hcomponents, List.drop_left]
    rw [if_neg (by simp), componentsBehind?_below habsolute hroot hnames]
    show Path.textOfComponents _ = _
    rw [← Path.textOfComponents_filter, hdropped, List.filter_append, hbehind, Path.filter_names]

theorem course_shown {glob : List Char} {names : List String}
    (hroot : (walkRoot base glob).text ≠ "")
    (hnames : ∀ name ∈ names, IsName name ∧ isHiddenName name = false) :
    (⟨shown base glob names⟩ : Path).course = (literalPrefix glob).course ++ names.map .name := by
  have hsteps {cs : List Component} (hcs : ∀ c ∈ cs, c.IsStep) :
      ∀ c ∈ cs ++ names.map .name, c.IsStep := by
    intro c hc
    rcases List.mem_append.mp hc with hspelled | hname
    · exact hcs c hspelled
    · exact Path.isStep_of_mem_names hnames c hname
  rw [shown_eq hroot hnames]
  cases habsolute : (literalPrefix glob).isAbsolute with
  | true =>
    rw [Path.course_of_absolute habsolute, List.cons_append]
    exact Path.course_textOfComponents_root
      (hsteps fun c hc => Path.isStep_of_mem_furtherComponents hc)
  | false =>
    rw [Path.course_of_relative habsolute]
    exact Path.course_textOfComponents (hsteps fun c hc => Path.isStep_of_mem_furtherComponents hc)

/-- A file that a pattern yields is shown by what the pattern spells out and names that are
not hidden, and read below the base directory at what shows it. -/
theorem Yields.exists_names (h : Yields t workingDir base p f) :
    ∃ names : List String, (∀ name ∈ names, isHiddenName name = false) ∧
      (⟨f.display⟩ : Path).course = p.spelled.course ++ names.map .name ∧
      f.location.course = (base.join p.spelled).course ++ names.map .name := by
  cases h with
  | file _ => exact ⟨[], by simp, by simp [Path.course_normalText, spelled], by simp [spelled]⟩
  | @glob body _ _ names _ _ hdirectory _ _ hvisible hlookup _ =>
    have hnames : ∀ name ∈ names, IsName name ∧ isHiddenName name = false :=
      FileTree.names_of_lookup hlookup hvisible
    have hroot := FileTree.text_ne_empty_of_directory? hdirectory
    exact ⟨names, hvisible, course_shown hroot hnames, Path.course_below hroot hnames⟩

/-- A display path is the normal text of itself. -/
theorem Yields.display_eq (h : Yields t workingDir base p f) :
    f.display = Path.textOfComponents (⟨f.display⟩ : Path).course := by
  cases h with
  | @file path _ =>
    show Path.normalText _ = Path.textOfComponents (⟨Path.normalText _⟩ : Path).course
    rw [Path.course_normalText, Path.course, Path.textOfComponents_filter]
    rfl
  | @glob body _ _ names _ _ hdirectory _ _ hvisible hlookup _ =>
    have hnames : ∀ name ∈ names, IsName name ∧ isHiddenName name = false :=
      FileTree.names_of_lookup hlookup hvisible
    have hroot := FileTree.text_ne_empty_of_directory? hdirectory
    show shown base body names = Path.textOfComponents (⟨shown base body names⟩ : Path).course
    rw [course_shown hroot hnames, shown_eq hroot hnames]

/-- A file is read at its display path, seen from the base directory. -/
theorem Yields.course_location (h : Yields t workingDir base p f) :
    f.location.course = (base.join ⟨f.display⟩).course := by
  obtain ⟨names, -, hdisplay, hlocation⟩ := h.exists_names
  have habsolute : (⟨f.display⟩ : Path).isAbsolute = p.spelled.isAbsolute := by
    rw [Bool.eq_iff_iff, Path.isAbsolute_iff_head?, Path.isAbsolute_iff_head?, hdisplay]
    cases p.spelled.course with
    | nil => cases names <;> simp
    | cons c rest => simp
  rw [hlocation, Path.course_join, Path.course_join, habsolute, hdisplay]
  split
  · rfl
  · rw [List.append_assoc]

/-- Files with one display path are read at one place. -/
theorem Yields.place_location (h : Yields t workingDir base p f)
    (l : Location) : f.location.place l = (⟨f.display⟩ : Path).place (base.place l) := by
  rw [← Path.place_join, Path.place, Path.place, h.course_location]

end InputPattern

end ModuleBundler
