/-
# ModuleBundler.Proofs.FileTree.Written -- what writing leaves behind

Bundles are written by edits of two kinds: a file is put where a path leads, and directories
are made where nothing is. `Wrote files` relates the trees before and after such edits: at
`files` there are files now, and everywhere else nothing changed but for directories that
are new. It holds whatever the paths are and whether there are links in the tree.

In a tree without links more is known: it stays one (`Plain.makeDirectories`), and a file that
was written is read back from its path (`Plain.readText_insert`).
-/

import ModuleBundler.Proofs.FileTree.Outside

namespace ModuleBundler

namespace FileTree

variable {t t' t'' : FileTree} {workingDir : Location} {p : Path} {l : Location}

/-! ## Files written and directories made -/

/-- The second tree has files at some locations; elsewhere it is the first tree, but for
directories where nothing was. -/
structure Wrote (files : List Location) (t t' : FileTree) : Prop where
  filled : ∀ l ∈ files, ∃ content, t'.lookup l = some (.file content)
  others : ∀ l, l ∉ files →
    t'.lookup l = t.lookup l ∨ (t.lookup l = none ∧ t'.lookup l = some .directory)

theorem Wrote.refl (t : FileTree) : Wrote [] t t :=
  ⟨by simp, fun _ _ => .inl rfl⟩

theorem Wrote.trans {files files' : List Location} (h : Wrote files t t')
    (h' : Wrote files' t' t'') : Wrote (files ++ files') t t'' := by
  constructor
  case filled =>
    intro l hl
    by_cases hl' : l ∈ files'
    · exact h'.filled l hl'
    · have hmem : l ∈ files := by simpa [hl'] using hl
      obtain ⟨content, hfile⟩ := h.filled l hmem
      rcases h'.others l hl' with hsame | ⟨hnone, -⟩
      · exact ⟨content, hsame.trans hfile⟩
      · rw [hfile] at hnone
        cases hnone
  case others =>
    intro l hl
    obtain ⟨hmem, hmem'⟩ := not_or.mp (mt List.mem_append.mpr hl)
    rcases h.others l hmem with hsame | ⟨hnone, hmade⟩
    · rw [← hsame]
      exact h'.others l hmem'
    · rcases h'.others l hmem' with hsame' | ⟨hnone', -⟩
      · exact .inr ⟨hnone, hsame'.trans hmade⟩
      · rw [hmade] at hnone'
        cases hnone'

theorem Wrote.insert_directory (h : t.lookup l = none) (hl : IsNamed l) :
    Wrote [] t (t.insert l .directory) := by
  refine ⟨by simp, fun m _ => ?_⟩
  rw [lookup_insert t m _ (ne_nil_of_lookup_eq_none h) hl]
  by_cases hml : m = l
  · subst hml
    exact .inr ⟨h, if_pos rfl⟩
  · exact .inl (if_neg hml)

theorem Wrote.insert_file (h : t.fileLocation workingDir p = .ok l) (content : Content) :
    Wrote [l] t (t.insert l (.file content)) := by
  obtain ⟨hnamed, hl⟩ := isNamed_of_fileLocation h
  constructor
  case filled =>
    intro m hm
    obtain rfl := List.mem_singleton.mp hm
    exact ⟨content, by rw [lookup_insert t m _ hl hnamed, if_pos rfl]⟩
  case others =>
    intro m hm
    rw [lookup_insert t m _ hl hnamed, if_neg (by simpa using hm)]
    exact .inl rfl

/-- Making a directory and those above it makes directories only. -/
theorem Wrote.makeDirectories (t : FileTree) (workingDir : Location) (p : Path) :
    Wrote [] t (t.makeDirectories workingDir p).1 :=
  makeDirectories_induction (fun _ q _ hmade hvacant => by
    obtain ⟨hnone, hnamed⟩ := destination_holds (namesOnly_steps q) hvacant
    exact hmade.trans (.insert_directory hnone hnamed)) p (.refl t)

/-! ## In a tree without links -/

theorem eq_of_standing_eq_vacant {m : Location} (h : t.standing m = .vacant l) : m = l := by
  rw [standing] at h
  split at h
  · cases h
  · exact Destination.vacant.inj h

/-- A directory is made in one that is there. -/
theorem Plain.insert_directory (h : t.Plain workingDir)
    (hvacant : t.destination workingDir .entry p p.steps = .ok (.vacant l)) :
    (t.insert l .directory).Plain workingDir := by
  obtain ⟨hnone, hnamed⟩ := destination_holds (namesOnly_steps p) hvacant
  have hne := ne_nil_of_lookup_eq_none hnone
  have hparent : t.lookup l.dropLast = some .directory := by
    obtain ⟨hstanding, hdirectory⟩ := h.destination_steps_eq_ok hvacant
    rwa [eq_of_standing_eq_vacant hstanding.symm] at hdirectory
  have hkeeps : ∀ m, t.lookup m = some .directory →
      (t.insert l .directory).lookup m = some .directory := by
    intro m hm
    rw [lookup_insert t m _ hne hnamed]
    split
    · rfl
    · exact hm
  refine ⟨fun m node hm => hkeeps _ ?_, fun m target hm => ?_,
    hkeeps _ h.directory⟩
  · rw [lookup_insert t m _ hne hnamed] at hm
    split at hm
    · next hml =>
      rw [hml]
      exact hparent
    · exact h.rooted m node hm
  · rw [lookup_insert t m _ hne hnamed] at hm
    split at hm
    · cases hm
    · exact h.linkFree m target hm

/-- Making a directory and those above it keeps a tree without links. -/
theorem Plain.makeDirectories (h : t.Plain workingDir) (p : Path) :
    (t.makeDirectories workingDir p).1.Plain workingDir :=
  makeDirectories_induction (fun _ _ _ (ht : Plain _ workingDir) hvacant =>
    ht.insert_directory hvacant) p h

/-- Where a file can be written, it can be looked for. -/
theorem Plain.reaches_look (h : t.Plain workingDir) (hp : t.Reaches workingDir .write p) :
    t.Reaches workingDir .look p := by
  have hwalk : ∀ onLink onLink' steps at_ d, t.walkSteps .write onLink at_ steps = .ok d →
      t.walkSteps .look onLink' at_ steps = .ok d := by
    intro onLink onLink' steps
    induction steps with
    | nil => exact fun at_ d hok => hok
    | cons step rest ih =>
      intro at_ d hok
      cases step with
      | here => exact ih at_ d hok
      | slash => exact ih at_ d hok
      | up => exact ih at_.dropLast d hok
      | name n =>
        unfold walkSteps at hok ⊢
        split at hok
        · cases hok
        · rw [if_neg (by simp)]
          split at hok
          · cases hok
          · next hlength =>
            rw [if_neg hlength]
            split at hok
            · exact hok
            · exact ih _ d hok
            · exact hok
            · next target hlink => exact absurd hlink (h.linkFree _ _)
  obtain ⟨d, hd⟩ := hp
  refine ⟨d, ?_⟩
  unfold destination at hd ⊢
  split at hd
  · cases hd
  · obtain ⟨_, hwrite⟩ := t.exists_follow_eq .write maxLinks
    obtain ⟨_, hlook⟩ := t.exists_follow_eq .look maxLinks
    rw [hwrite] at hd
    rw [hlook]
    exact hwalk _ _ _ _ d hd

/-- A file that was written is read back from its path. -/
theorem Plain.readText_insert (h : t.Plain workingDir)
    (hlocation : t.fileLocation workingDir p = .ok l) (text : String) :
    (t.insert l (.file (.text text))).readText workingDir p = .ok text := by
  have htakes := h.takesFile hlocation
  obtain ⟨hreach, rfl, -⟩ := h.fileLocation_eq_ok_iff.mp hlocation
  have hplain := h.insert htakes (.text text)
  have hrefl : SameOutside (· = p.place workingDir) t t := by
    refine .refl ?_
    rintro m rfl
    exact htakes
  have hsame := hrefl.insert rfl (.text text)
  exact hplain.readText_eq_ok_iff.mpr
    ⟨hsame.reaches h (h.reaches_look hreach), htakes.lookup_self _⟩

end FileTree

end ModuleBundler
