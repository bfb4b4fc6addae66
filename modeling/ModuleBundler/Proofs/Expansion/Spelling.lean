/-
# ModuleBundler.Proofs.Expansion.Spelling -- when two entries are one file

A file is listed once under a display path. A display path keeps what a pattern spells out,
its `..` and the `/` it may start with included, so one file can have several: `a.js` and
`lib/../a.js` are two entries. What can be told apart is what goes down by names only.

Main statement: `expand_apart`, for trees without links. Every entry is a file, and two
entries whose display paths go the same way up to their last `..` (or to the root directory,
if they start there) are different files. So a file is never listed twice because of `./`,
repeated slashes or a `.`, and never by patterns that are all relative and hold no `..`.
-/

import Mathlib.Data.List.DropRight
import ModuleBundler.Proofs.Expansion.Display
import ModuleBundler.Proofs.FileTree.Plain

namespace ModuleBundler

/-! ## The turns of a path -/

namespace Path

/-- Whether a component goes down by a name. -/
def Component.isName : Component → Bool
  | .name _ => true
  | _ => false

theorem exists_names {cs : List Component} (h : ∀ c ∈ cs, c.isName = true) :
    ∃ names : List String, cs = names.map .name := by
  induction cs with
  | nil => exact ⟨[], rfl⟩
  | cons c rest ih =>
    obtain ⟨names, rfl⟩ := ih fun d hd => h d (List.mem_cons_of_mem _ hd)
    cases c with
    | name text => exact ⟨text :: names, rfl⟩
    | root => cases h .root List.mem_cons_self
    | here => cases h .here List.mem_cons_self
    | up => cases h .up List.mem_cons_self

/-- The way of a path up to its last `..`, or to the root directory that it starts at. Behind
it there are only names. -/
def turns (p : Path) : List Component :=
  p.course.rdropWhile Component.isName

theorem exists_course_eq_turns_append (p : Path) :
    ∃ names : List String, p.course = p.turns ++ names.map .name := by
  obtain ⟨names, hnames⟩ := exists_names fun c hc =>
    List.mem_rtakeWhile_imp (p := Component.isName) (l := p.course) (x := c) hc
  exact ⟨names, by rw [turns, ← hnames, List.rdropWhile_append_rtakeWhile]⟩

/-- Names behind a path are no turns. -/
theorem turns_eq_of_course {p q : Path} {names : List String}
    (h : p.course = q.course ++ names.map .name) : p.turns = q.turns := by
  rw [turns, turns, h]
  clear h
  induction names using List.reverseRecOn with
  | nil => rw [List.map_nil, List.append_nil]
  | append_singleton front name ih =>
    rw [List.map_append, ← List.append_assoc]
    exact (List.rdropWhile_concat_pos _ _ _ rfl).trans ih

/-- Paths that take the same turns and lead to one place go by the same names. -/
theorem course_eq_of_place {p q : Path} (hturns : p.turns = q.turns) {l : Location}
    (hplace : p.place l = q.place l) : p.course = q.course := by
  obtain ⟨names, hp⟩ := p.exists_course_eq_turns_append
  obtain ⟨names', hq⟩ := q.exists_course_eq_turns_append
  rw [place, place, hp, hq, List.foldl_append, List.foldl_append, foldl_enter_names,
    foldl_enter_names, hturns, List.append_cancel_left_eq] at hplace
  rw [hp, hq, hturns, hplace]

end Path

namespace Expansion

open InputPattern (Yields)

variable {t : FileTree} {workingDir : Location} {base : Path} {p q : InputPattern}
  {patterns : List String} {files : List SourcePath} {f g : SourcePath}

/-! ## Files of patterns -/

/-- What a pattern yields is a file, at the place of its path. -/
theorem exists_content_of_yields (h : t.Plain workingDir) (hf : Yields t workingDir base p f) :
    ∃ content, t.lookup (f.location.place workingDir) = some (.file content) := by
  cases hf with
  | file hfile => exact (h.isFile_iff.mp hfile).2
  | @glob _ _ _ names content _ hdirectory _ _ hvisible hlookup _ =>
    obtain ⟨-, hplace, -⟩ := h.directory?_eq_some_iff.mp hdirectory
    have hnames : ∀ name ∈ names, Path.IsName name ∧ Path.isHiddenName name = false :=
      FileTree.names_of_lookup hlookup hvisible
    refine ⟨content, ?_⟩
    rw [Path.place_below (FileTree.text_ne_empty_of_directory? hdirectory) hnames, ← hplace,
      hlookup]

/-- Files at one place, shown by paths that take the same turns, are shown by one path. -/
theorem display_eq_of_place (hf : Yields t workingDir base p f)
    (hg : Yields t workingDir base q g)
    (hturns : (⟨f.display⟩ : Path).turns = (⟨g.display⟩ : Path).turns) {l : Location}
    (hplace : f.location.place l = g.location.place l) : f.display = g.display := by
  rw [hf.place_location, hg.place_location] at hplace
  rw [hf.display_eq, hg.display_eq, Path.course_eq_of_place hturns hplace]

/-- What an entry stands for: the file that its display path leads to from the base directory,
by the turns that one of the patterns spells out. -/
structure Denotes (t : FileTree) (workingDir : Location) (base : Path) (patterns : List String)
    (f : SourcePath) : Prop where
  place : f.location.place workingDir = (⟨f.display⟩ : Path).place (base.place workingDir)
  file : ∃ content, t.lookup (f.location.place workingDir) = some (.file content)
  turns : ∃ text ∈ patterns,
    (⟨f.display⟩ : Path).turns = (InputPattern.ofText text.toList).spelled.turns

theorem exists_yields_of_mem
    (hexpand : expand t workingDir base patterns = .ok files) (hf : f ∈ files) :
    ∃ text ∈ patterns, Yields t workingDir base (.ofText text.toList) f := by
  obtain ⟨-, hmeaning⟩ := meaning_of_expand hexpand
  obtain ⟨i, p, -, hp, hfound⟩ := hmeaning.located f hf
  obtain ⟨text, htext, hread⟩ := List.mem_map.mp (List.mem_of_getElem? hp)
  exact ⟨text, htext, hread ▸ (hfound _).mpr rfl⟩

theorem denotes_of_mem (h : t.Plain workingDir)
    (hexpand : expand t workingDir base patterns = .ok files) (hf : f ∈ files) :
    Denotes t workingDir base patterns f := by
  obtain ⟨text, htext, hyields⟩ := exists_yields_of_mem hexpand hf
  obtain ⟨names, -, hcourse, -⟩ := hyields.exists_names
  exact ⟨hyields.place_location _, exists_content_of_yields h hyields,
    text, htext, Path.turns_eq_of_course hcourse⟩

theorem ne_place_of_turns (hexpand : expand t workingDir base patterns = .ok files) :
    files.Pairwise fun f g => (⟨f.display⟩ : Path).turns = (⟨g.display⟩ : Path).turns →
      f.location.place workingDir ≠ g.location.place workingDir := by
  obtain ⟨-, hmeaning⟩ := meaning_of_expand hexpand
  have hdistinct : files.Pairwise fun f g => f.display ≠ g.display :=
    List.pairwise_map.mp hmeaning.distinct
  -- Entries are kept apart by display path only, so two of them at one place would share theirs.
  refine hdistinct.imp_of_mem fun hf hg hne hturns hplace => hne ?_
  obtain ⟨_, -, hp⟩ := exists_yields_of_mem hexpand hf
  obtain ⟨_, -, hq⟩ := exists_yields_of_mem hexpand hg
  exact display_eq_of_place hp hq hturns hplace

/-- **No file twice.** In a tree without links, every entry stands for the file that its display
path leads to from the base directory, by the turns of its pattern. Two entries whose display
paths take the same turns are different files. -/
theorem expand_apart (h : t.Plain workingDir)
    (hexpand : expand t workingDir base patterns = .ok files) :
    (∀ f ∈ files, Denotes t workingDir base patterns f) ∧
      files.Pairwise fun f g => (⟨f.display⟩ : Path).turns = (⟨g.display⟩ : Path).turns →
        f.location.place workingDir ≠ g.location.place workingDir :=
  ⟨fun _ hf => denotes_of_mem h hexpand hf, ne_place_of_turns hexpand⟩

/-- A file that is found by its name and by a walk, both below a `..`, is one entry beside that
of another file. -/
theorem expand_apart_above :
    let t : FileTree :=
      { entries := [(["lib"], .directory), (["lib", "a.js"], .file (.text "")),
          (["lib", "b.js"], .file (.text "")), (["p"], .directory)] }
    let base : Path := ⟨"/p"⟩
    let patterns := ["..//lib/./a.js", "./../lib/*.js"]
    t.Plain [] ∧ ∃ files, expand t [] base patterns = .ok files ∧
      files = [⟨"../lib/a.js", ⟨"/p/..//lib/./a.js"⟩⟩, ⟨"../lib/b.js", ⟨"/p/../lib/b.js"⟩⟩] ∧
      (∀ f ∈ files, Denotes t [] base patterns f) ∧
      files.Pairwise fun f g => (⟨f.display⟩ : Path).turns = (⟨g.display⟩ : Path).turns →
        f.location.place [] ≠ g.location.place [] := by
  intro t base patterns
  have ht : t.Plain [] := FileTree.plain_of_entries (by decide +kernel) rfl
  have hrun : (expand t [] base patterns).toOption = some
      [⟨"../lib/a.js", ⟨"/p/..//lib/./a.js"⟩⟩, ⟨"../lib/b.js", ⟨"/p/../lib/b.js"⟩⟩] := by
    decide +kernel
  cases hexpand : expand t [] base patterns with
  | error e =>
    rw [hexpand] at hrun
    cases hrun
  | ok files =>
    rw [hexpand] at hrun
    have hall := expand_apart ht hexpand
    exact ⟨ht, files, rfl, Option.some.inj hrun, hall.1, hall.2⟩

/-- One file under four display paths: with other turns, it is another entry. -/
theorem respelled_listed_again :
    let t : FileTree :=
      { entries := [(["p"], .directory), (["p", "a.js"], .file (.text "")),
          (["p", "lib"], .directory)] }
    let patterns := ["a.js", "lib/../a.js", "../p/*.js", "/p/a.js"]
    t.Plain [] ∧ (expand t [] ⟨"/p"⟩ patterns).toOption = some
      [⟨"a.js", ⟨"/p/a.js"⟩⟩, ⟨"lib/../a.js", ⟨"/p/lib/../a.js"⟩⟩,
        ⟨"../p/a.js", ⟨"/p/../p/a.js"⟩⟩, ⟨"/p/a.js", ⟨"/p/a.js"⟩⟩] ∧
      ∀ text ∈ ["/p/a.js", "/p/lib/../a.js", "/p/../p/a.js", "/p/a.js"],
        (⟨text⟩ : Path).place [] = ["p", "a.js"] := by
  intro t patterns
  have ht : t.Plain [] := FileTree.plain_of_entries (by decide +kernel) rfl
  exact ⟨ht, by decide +kernel, by decide +kernel⟩

/-- Patterns that spell out the same turns, as relative patterns without `..` do, list no file
twice. -/
theorem nodup_places_of_turns (h : t.Plain workingDir)
    (hexpand : expand t workingDir base patterns = .ok files) {turns : List Path.Component}
    (hturns : ∀ text ∈ patterns, (InputPattern.ofText text.toList).spelled.turns = turns) :
    (files.map fun f => f.location.place workingDir).Nodup := by
  rw [List.nodup_iff_pairwise_ne, List.pairwise_map]
  refine (ne_place_of_turns hexpand).imp_of_mem fun hf hg hapart => hapart ?_
  obtain ⟨text, htext, hfturns⟩ := (denotes_of_mem h hexpand hf).turns
  obtain ⟨text', htext', hgturns⟩ := (denotes_of_mem h hexpand hg).turns
  rw [hfturns, hgturns, hturns text htext, hturns text' htext']

end Expansion

end ModuleBundler
