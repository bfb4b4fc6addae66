/-
# ModuleBundler.Proofs.FileTree.Plain -- paths through trees without links

In a tree without links a path leads to one place only, the one that its course names
(`destination_eq_ok`). Whether it arrives there is a matter of the directories on the
way, so what a look-up finds is known from what stands at that place. Making a directory
that is there, with those above it, does nothing (`makeDirectories_of_directory`).
-/

import ModuleBundler.Proofs.FileTree.Listing
import ModuleBundler.Proofs.Path.Course

namespace ModuleBundler

open ModuleBundler.Path (Component)

/-- Where one step leads from a location. -/
def Step.enter (l : Location) : Step → Location
  | .here => l
  | .slash => l
  | .up => l.dropLast
  | .name text => l ++ [text]

/-! ## The steps of a path -/

namespace Path

theorem foldl_enter_segments (segments : List (List Char)) (l : Location) :
    ((segments.filter (· ≠ [])).map fun segment =>
        if segment = ['.'] then Step.here
        else if segment = ['.', '.'] then .up
        else .name (String.ofList segment)).foldl Step.enter l =
      ((segments.filter (!isSilent ·)).map component).foldl Component.enter l := by
  induction segments generalizing l with
  | nil => rfl
  | cons segment rest ih =>
    by_cases hempty : segment = []
    · simpa [hempty, isSilent] using ih l
    · by_cases hdot : segment = ['.']
      · simpa [hdot, isSilent, Step.enter] using ih l
      · by_cases hup : segment = ['.', '.']
        · simpa [hup, isSilent, component, Step.enter, Component.enter] using ih l.dropLast
        · simpa [hempty, hdot, hup, isSilent, component, Step.enter, Component.enter] using
            ih (l ++ [String.ofList segment])

/-- The steps of a path lead where its course does. -/
theorem foldl_enter_steps (p : Path) (l : Location) :
    p.steps.foldl Step.enter (if p.isAbsolute then [] else l) = p.place l := by
  rw [steps, foldl_enter_segments, place]
  cases habsolute : p.isAbsolute with
  | true =>
    rw [course_of_absolute habsolute]
    rfl
  | false =>
    rw [course_of_relative habsolute]
    rfl

/-- A slash at the end of a path leads nowhere else. -/
theorem foldl_enter_lookupSteps (p : Path) (l : Location) :
    p.lookupSteps.foldl Step.enter (if p.isAbsolute then [] else l) = p.place l := by
  rw [← foldl_enter_steps, lookupSteps]
  cases p.endsInSlash with
  | true =>
    rw [if_pos rfl, List.foldl_append]
    rfl
  | false => rfl

end Path

namespace FileTree

/-! ## Trees without links -/

/-- A tree without links, seen from a directory: everything stands in a directory. -/
structure Plain (t : FileTree) (workingDir : Location) : Prop where
  rooted : ∀ l node, t.lookup l = some node → t.lookup l.dropLast = some .directory
  linkFree : ∀ l target, t.lookup l ≠ some (.link target)
  directory : t.lookup workingDir = some .directory

/-- The conditions on a tree, entry by entry. -/
theorem plain_of_entries {t : FileTree} {workingDir : Location}
    (hentries : ∀ entry ∈ t.entries, t.lookup entry.1.dropLast = some .directory ∧
      (entry.2.isFile || entry.2.isDirectory) = true)
    (hworking : t.lookup workingDir = some .directory) : t.Plain workingDir := by
  refine ⟨fun l node hl => ?_, fun l target hl => ?_, hworking⟩
  · by_cases hroot : l = []
    · rw [hroot]
      exact t.lookup_nil
    · exact (hentries _ ((lookup_eq_some_iff hroot).mp hl)).1
  · by_cases hroot : l = []
    · rw [hroot, lookup_nil] at hl
      cases hl
    · have hkind := (hentries _ ((lookup_eq_some_iff hroot).mp hl)).2
      simp [Node.isFile, Node.isDirectory] at hkind

/-- A file can be put there: the location is in a directory, and at most a file is there. -/
structure TakesFile (t : FileTree) (l : Location) : Prop where
  named : IsNamed l
  parent : t.lookup l.dropLast = some .directory
  holds : ∀ node, t.lookup l = some node → node.isFile = true

/-- What stands at a location, as what a path leads to. -/
def standing (t : FileTree) (l : Location) : Destination :=
  match t.lookup l with
  | some node => .found l node
  | none => .vacant l

theorem standing_of_some {t : FileTree} {l : Location} {node : Node} (h : t.lookup l = some node) :
    t.standing l = .found l node := by
  rw [standing, h]

theorem standing_of_none {t : FileTree} {l : Location} (h : t.lookup l = none) :
    t.standing l = .vacant l := by
  rw [standing, h]

section Plain

variable {t : FileTree} {workingDir : Location} {p : Path} {purpose : Purpose} {l : Location}
  {d : Destination}

/-- Steps that arrive do so where each of them leads, in a directory that is there. -/
theorem Plain.walkSteps_eq_ok (h : t.Plain workingDir)
    {onLink : Location → String → List Step → Except IoError Destination} {steps : List Step}
    (hl : t.lookup l = some .directory) (hok : t.walkSteps purpose onLink l steps = .ok d) :
    d = t.standing (steps.foldl Step.enter l) ∧
      t.lookup (steps.foldl Step.enter l).dropLast = some .directory := by
  -- On the way there are directories only; what else there is ends the walk.
  induction steps generalizing l with
  | nil =>
    obtain rfl := Except.ok.inj hok
    exact ⟨(standing_of_some hl).symm, h.rooted _ _ hl⟩
  | cons step rest ih =>
    cases step with
    | here => exact ih hl hok
    | slash => exact ih hl hok
    | up => exact ih (h.rooted _ _ hl) hok
    | name n =>
      have hparent : t.lookup (l ++ [n]).dropLast = some .directory := by
        rw [List.dropLast_concat, hl]
      unfold walkSteps at hok
      split at hok
      · cases hok
      · split at hok
        · cases hok
        · split at hok
          · next hnone =>
            split at hok
            · next hlast =>
              obtain rfl := Except.ok.inj hok
              obtain rfl : rest = [] := by simp_all
              exact ⟨(standing_of_none hnone).symm, hparent⟩
            · cases hok
          · next hdirectory => exact ih hdirectory hok
          · next content hfile =>
            split at hok
            · next hlast =>
              obtain rfl := Except.ok.inj hok
              obtain rfl : rest = [] := by simpa using hlast
              exact ⟨(standing_of_some hfile).symm, hparent⟩
            · cases hok
          · next target hlink => exact absurd hlink (h.linkFree _ _)

/-- Following steps is walking, whatever is done about links. -/
theorem exists_follow_eq (t : FileTree) (purpose : Purpose) (links : Nat) :
    ∃ onLink, t.follow purpose links = t.walkSteps purpose onLink := by
  cases links with
  | zero => exact ⟨_, rfl⟩
  | succ links => exact ⟨_, rfl⟩

/-- The directory that a path is followed from is there. -/
theorem Plain.start (h : t.Plain workingDir) (p : Path) :
    t.lookup (if p.isAbsolute then [] else workingDir) = some .directory := by
  split
  · exact t.lookup_nil
  · exact h.directory

/-- Steps that arrive somewhere do so where they lead, in a directory that is there. -/
theorem Plain.destination_steps_eq_ok (h : t.Plain workingDir) {steps : List Step}
    (hok : t.destination workingDir purpose p steps = .ok d) :
    d = t.standing (steps.foldl Step.enter (if p.isAbsolute then [] else workingDir)) ∧
      t.lookup (steps.foldl Step.enter (if p.isAbsolute then [] else workingDir)).dropLast =
        some .directory := by
  unfold destination at hok
  split at hok
  · cases hok
  · obtain ⟨onLink, hfollow⟩ := t.exists_follow_eq purpose maxLinks
    rw [hfollow] at hok
    exact h.walkSteps_eq_ok (h.start p) hok

/-- A path that arrives somewhere does so at its place. -/
theorem Plain.destination_eq_ok (h : t.Plain workingDir)
    (hok : t.destination workingDir purpose p p.lookupSteps = .ok d) :
    d = t.standing (p.place workingDir) ∧
      t.lookup (p.place workingDir).dropLast = some .directory := by
  rw [← Path.foldl_enter_lookupSteps]
  exact h.destination_steps_eq_ok hok

/-- A path leads somewhere. -/
def Reaches (t : FileTree) (workingDir : Location) (purpose : Purpose) (p : Path) : Prop :=
  ∃ d, t.destination workingDir purpose p p.lookupSteps = .ok d

theorem Plain.destination_of_reaches (h : t.Plain workingDir) (hp : t.Reaches workingDir purpose p) :
    t.destination workingDir purpose p p.lookupSteps = .ok (t.standing (p.place workingDir)) := by
  obtain ⟨d, hd⟩ := hp
  rw [hd, (h.destination_eq_ok hd).1]

/-- What a path leads to stands at its place. -/
theorem Plain.find_eq_ok_iff (h : t.Plain workingDir) {node : Node} :
    t.find workingDir p = .ok (l, node) ↔
      t.Reaches workingDir .look p ∧ l = p.place workingDir ∧
        t.lookup (p.place workingDir) = some node := by
  by_cases hreach : t.Reaches workingDir .look p
  · rw [find, h.destination_of_reaches hreach]
    cases hlookup : t.lookup (p.place workingDir) with
    | none => simp [standing_of_none hlookup]
    | some found => simp [standing_of_some hlookup, hreach, eq_comm]
  · refine ⟨fun hok => absurd ?_ hreach, fun hok => absurd hok.1 hreach⟩
    rw [find] at hok
    split at hok
    · next hd => exact ⟨_, hd⟩
    · cases hok
    · cases hok

theorem Plain.isFile_iff (h : t.Plain workingDir) :
    t.isFile workingDir p = true ↔
      t.Reaches workingDir .look p ∧
        ∃ content, t.lookup (p.place workingDir) = some (.file content) := by
  constructor
  · intro hfile
    rw [isFile] at hfile
    split at hfile
    · next l node hfind =>
      obtain ⟨hreach, -, hlookup⟩ := h.find_eq_ok_iff.mp hfind
      cases node with
      | file content => exact ⟨hreach, content, hlookup⟩
      | directory => cases hfile
      | link target => cases hfile
    · cases hfile
  · rintro ⟨hreach, content, hlookup⟩
    rw [isFile, h.find_eq_ok_iff.mpr ⟨hreach, rfl, hlookup⟩]
    rfl

theorem Plain.directory?_eq_some_iff (h : t.Plain workingDir) :
    t.directory? workingDir p = some l ↔
      t.Reaches workingDir .look p ∧ l = p.place workingDir ∧
        t.lookup (p.place workingDir) = some .directory := by
  rw [← h.find_eq_ok_iff, directory?]
  split
  · next m hfind => simp [hfind]
  · next hother =>
    constructor
    · intro hsome
      cases hsome
    · intro hfind
      exact absurd hfind (hother l)

theorem Plain.readText_eq_ok_iff (h : t.Plain workingDir) {text : String} :
    t.readText workingDir p = .ok text ↔
      t.Reaches workingDir .look p ∧
        t.lookup (p.place workingDir) = some (.file (.text text)) := by
  constructor
  · intro hread
    rw [readText] at hread
    split at hread
    · next l found hfind =>
      obtain rfl := Except.ok.inj hread
      obtain ⟨hreach, -, hlookup⟩ := h.find_eq_ok_iff.mp hfind
      exact ⟨hreach, hlookup⟩
    · cases hread
    · cases hread
    · cases hread
  · rintro ⟨hreach, hlookup⟩
    rw [readText, h.find_eq_ok_iff.mpr ⟨hreach, rfl, hlookup⟩]

/-- A file is written to the place of its path, unless something else is there. -/
theorem Plain.fileLocation_eq_ok_iff (h : t.Plain workingDir) :
    t.fileLocation workingDir p = .ok l ↔
      t.Reaches workingDir .write p ∧ l = p.place workingDir ∧
        ∀ node, t.lookup (p.place workingDir) = some node → node.isFile = true := by
  by_cases hreach : t.Reaches workingDir .write p
  · rw [fileLocation, h.destination_of_reaches hreach]
    cases hlookup : t.lookup (p.place workingDir) with
    | none =>
      rw [standing_of_none hlookup]
      constructor
      · intro hok
        exact ⟨hreach, (Except.ok.inj hok).symm, by simp⟩
      · rintro ⟨-, rfl, -⟩
        rfl
    | some node =>
      rw [standing_of_some hlookup]
      cases node with
      | file content =>
        constructor
        · intro hok
          exact ⟨hreach, (Except.ok.inj hok).symm, by simp [Node.isFile]⟩
        · rintro ⟨-, rfl, -⟩
          rfl
      | directory => simp [Node.isFile]
      | link target => simp [Node.isFile]
  · refine ⟨fun hok => absurd ?_ hreach, fun hok => absurd hok.1 hreach⟩
    rw [fileLocation] at hok
    split at hok
    · next hd => exact ⟨_, hd⟩
    · cases hok
    · next hd => exact ⟨_, hd⟩
    · cases hok

theorem Plain.takesFile (h : t.Plain workingDir) (hok : t.fileLocation workingDir p = .ok l) :
    t.TakesFile l := by
  obtain ⟨⟨d, hd⟩, rfl, hholds⟩ := h.fileLocation_eq_ok_iff.mp hok
  obtain ⟨-, hparent⟩ := h.destination_eq_ok hd
  exact ⟨(isNamed_of_fileLocation hok).1, hparent, hholds⟩

/-! ## Directories that are there -/

/-- The way to a directory leads through directories, also for who would not follow links. -/
theorem Plain.walkSteps_front (h : t.Plain workingDir)
    {onLink onLink' : Location → String → List Step → Except IoError Destination}
    (hpurpose : purpose ≠ .write) {front back : List Step} {at_ : Location}
    (hok : t.walkSteps .look onLink at_ (front ++ back) = .ok (.found l .directory)) :
    ∃ m, t.walkSteps purpose onLink' at_ front = .ok (.found m .directory) := by
  induction front generalizing at_ with
  | nil => exact ⟨at_, rfl⟩
  | cons step rest ih =>
    cases step with
    | here => exact ih hok
    | slash => exact ih hok
    | up => exact ih hok
    | name n =>
      rw [List.cons_append, walkSteps, if_neg (by simp)] at hok
      rw [walkSteps, if_neg (by simp [hpurpose])]
      split at hok
      · cases hok
      · next hlength =>
        rw [if_neg hlength]
        split at hok
        · split at hok
          · cases Except.ok.inj hok
          · cases hok
        · exact ih hok
        · split at hok
          · cases Except.ok.inj hok
          · cases hok
        · next target hlink => exact absurd hlink (h.linkFree _ _)

/-- The steps to a directory, or the first of them, lead to a directory. -/
theorem Plain.destination_front (h : t.Plain workingDir) (hpurpose : purpose ≠ .write)
    (hdirectory : t.directory? workingDir p = some l) {front : List Step}
    (hfront : front <+: p.lookupSteps) :
    ∃ m, t.destination workingDir purpose p front = .ok (.found m .directory) := by
  obtain ⟨hreach, -, hlookup⟩ := h.directory?_eq_some_iff.mp hdirectory
  have hok := h.destination_of_reaches hreach
  rw [standing_of_some hlookup] at hok
  obtain ⟨back, hback⟩ := hfront
  unfold destination at hok ⊢
  split at hok
  · cases hok
  · obtain ⟨_, hlook⟩ := t.exists_follow_eq .look maxLinks
    obtain ⟨_, hpurposed⟩ := t.exists_follow_eq purpose maxLinks
    rw [hlook, ← hback] at hok
    rw [hpurposed]
    exact h.walkSteps_front hpurpose hok

theorem steps_prefix_lookupSteps (p : Path) : p.steps <+: p.lookupSteps := by
  unfold Path.lookupSteps
  split
  · exact List.prefix_append _ _
  · exact List.prefix_rfl

theorem Plain.makeDirectory_of_directory (h : t.Plain workingDir)
    (hdirectory : t.directory? workingDir p = some l) :
    t.makeDirectory workingDir p = .error .alreadyExists := by
  unfold makeDirectory
  split
  · obtain ⟨m, hfound⟩ := h.destination_front (by decide : Purpose.entry ≠ .write) hdirectory
      (steps_prefix_lookupSteps p)
    rw [hfound]
  · obtain ⟨m, hfound⟩ := h.destination_front (by decide : Purpose.look ≠ .write) hdirectory
      ((List.dropLast_prefix _).trans (steps_prefix_lookupSteps p))
    rw [requireDirectory, hfound]
    rfl

/-- A directory that is there need not be made. -/
theorem Plain.makeDirectories_of_directory (h : t.Plain workingDir)
    (hdirectory : t.directory? workingDir p = some l) :
    t.makeDirectories workingDir p = (t, .ok ()) := by
  have htext := text_ne_empty_of_directory? hdirectory
  have hfault : p.fault? = none := by
    obtain ⟨⟨d, hd⟩, -⟩ := h.directory?_eq_some_iff.mp hdirectory
    unfold destination at hd
    split at hd
    · cases hd
    · next hnone => exact hnone
  have hmade := h.makeDirectory_of_directory hdirectory
  unfold makeDirectories
  rw [hfault]
  cases p.parents with
  | nil => simp [makeDirectoriesUpTo, htext, ensureDirectory, hmade, hdirectory]
  | cons parent above => simp [makeDirectoriesUpTo, htext, hmade, hdirectory]

end Plain

end FileTree

end ModuleBundler
