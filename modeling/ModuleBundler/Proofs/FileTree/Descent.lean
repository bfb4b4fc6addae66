/-
# ModuleBundler.Proofs.FileTree.Descent -- which paths arrive

In a tree without links a path arrives exactly if every one of its steps is taken in a
directory that is there, by a name that is not too long (`Plain.reaches_iff`). What the steps
find has nothing to do with how they were put together, so a path behind the path of a
directory is followed from there.

Main statement: `Plain.directory?_join_ofNames`. Going down from a directory by names of
directories arrives, unless the operating system does not take the path as a whole
(`Path.IsOpenable`). The limits are on how a path is written, and there is no way around them:
a directory that is reached step by step may lie too deep to be named at once.
-/

import Mathlib.Tactic.Tauto
import ModuleBundler.Proofs.FileTree.Outside

namespace ModuleBundler

open ModuleBundler.Path (IsName isHiddenName)

/-! ## Paths that the operating system takes -/

/-- A step by no name that is too long. -/
def Step.IsShort : Step → Prop
  | .name n => n.utf8ByteSize ≤ Path.nameLimit
  | _ => True

instance : DecidablePred Step.IsShort := fun step =>
  match step with
  | .name n => inferInstanceAs (Decidable (n.utf8ByteSize ≤ Path.nameLimit))
  | .here => inferInstanceAs (Decidable True)
  | .up => inferInstanceAs (Decidable True)
  | .slash => inferInstanceAs (Decidable True)

/-- A path that keeps to the limits: it is not empty, holds no NUL and is not too long, and
none of its names is. -/
structure Path.IsOpenable (p : Path) : Prop where
  faultless : p.fault? = none
  short : ∀ step ∈ p.steps, step.IsShort

instance : DecidablePred Path.IsOpenable := fun p =>
  decidable_of_iff (p.fault? = none ∧ ∀ step ∈ p.steps, step.IsShort)
    ⟨fun h => ⟨h.1, h.2⟩, fun h => ⟨h.faultless, h.short⟩⟩

namespace Path

/-! ## Steps of joined paths -/

/-- The text behind a slash adds its steps. -/
theorem steps_of_slash {p : Path} {front back : List Char}
    (h : p.text.toList = front ++ '/' :: back) :
    p.steps = (⟨String.ofList front⟩ : Path).steps ++ (⟨String.ofList back⟩ : Path).steps := by
  simp only [steps, segments, h, String.toList_ofList, Text.splitOn_append_mark, List.filter_append,
    List.map_append]

/-- A path that is put behind another is followed from where that one leads. -/
theorem steps_join {base p : Path} (hbase : base.text ≠ "") (hp : p.isAbsolute = false) :
    (base.join p).steps = base.steps ++ p.steps := by
  obtain ⟨front, hjoin, hfront | hfront⟩ := exists_front_of_join hbase hp
  · rw [steps_of_slash hjoin, mk_ofList_toList, ← hfront, mk_ofList_toList]
  · -- Behind the slash at its end the base has no step.
    have hsteps : base.steps = (⟨String.ofList front⟩ : Path).steps := by
      rw [steps_of_slash hfront]
      exact List.append_nil _
    rw [steps_of_slash hjoin, mk_ofList_toList, hsteps]

/-- Names that are not hidden are steps by themselves. -/
theorem steps_ofNames {names : List String}
    (hnames : ∀ name ∈ names, IsName name ∧ isHiddenName name = false) :
    (ofNames names).steps = names.map .name := by
  by_cases hne : names = []
  · rw [hne]
    rfl
  · have hproper : ∀ name ∈ names, IsName name := fun n hn => (hnames n hn).1
    have hfilter : (names.map String.toList).filter (· ≠ []) = names.map String.toList := by
      rw [List.filter_eq_self]
      intro piece hpiece
      simpa using (IsName.piece hproper piece hpiece).1
    rw [steps, segments, splitOn_ofNames hne hproper, hfilter, List.map_map]
    refine List.map_congr_left fun name hname => ?_
    obtain ⟨c, rest, hcons⟩ := List.exists_cons_of_ne_nil (hproper name hname).toList_ne_nil
    have hdot : c ≠ '.' := by simpa [isHiddenName, hcons] using (hnames name hname).2
    show (if name.toList = ['.'] then Step.here
      else if name.toList = ['.', '.'] then .up else .name (String.ofList name.toList)) = _
    rw [if_neg (by simp [hcons, hdot]), if_neg (by simp [hcons, hdot]), String.ofList_toList]

end Path

namespace FileTree

/-! ## Steps that arrive -/

/-- Steps that can be taken: before each of them there is a directory. -/
def Passable (t : FileTree) : Location → List Step → Prop
  | _, [] => True
  | l, step :: rest => t.lookup l = some .directory ∧ step.IsShort ∧ Passable t (step.enter l) rest

variable {t : FileTree} {workingDir : Location} {p q : Path} {l d : Location}

@[simp] theorem passable_nil : t.Passable l [] := trivial

theorem passable_append {front back : List Step} :
    t.Passable l (front ++ back) ↔
      t.Passable l front ∧ t.Passable (front.foldl Step.enter l) back := by
  induction front generalizing l with
  | nil => exact ⟨fun h => ⟨trivial, h⟩, fun h => h.2⟩
  | cons step rest ih =>
    show (_ ∧ _ ∧ t.Passable _ (rest ++ back)) ↔ (_ ∧ _ ∧ t.Passable _ rest) ∧ _
    rw [ih, List.foldl_cons]
    tauto

theorem Passable.isShort {steps : List Step} (h : t.Passable l steps) :
    ∀ step ∈ steps, step.IsShort := by
  induction steps generalizing l with
  | nil => simp
  | cons first rest ih =>
    obtain ⟨-, hfirst, hrest⟩ := h
    intro step hstep
    rcases List.mem_cons.mp hstep with rfl | hmem
    · exact hfirst
    · exact ih hrest step hmem

/-- Names of directories lead down to the last of them. -/
theorem Plain.passable_names (h : t.Plain workingDir) {names : List String}
    (hlookup : t.lookup (l ++ names) = some .directory)
    (hshort : ∀ step ∈ names.map Step.name, step.IsShort) : t.Passable l (names.map .name) := by
  induction names generalizing l with
  | nil => trivial
  | cons name rest ih =>
    have hdirectory : t.lookup l = some .directory := h.lookup_of_below (by simp) hlookup
    rw [List.append_cons] at hlookup
    rw [List.map_cons] at hshort
    exact ⟨hdirectory, hshort _ List.mem_cons_self,
      ih hlookup fun step hstep => hshort step (List.mem_cons_of_mem _ hstep)⟩

/-- Steps arrive exactly if they can be taken. -/
theorem Plain.exists_walkSteps_iff (h : t.Plain workingDir) {purpose : Purpose}
    (hpurpose : purpose ≠ .write)
    {onLink : Location → String → List Step → Except IoError Destination} {steps : List Step}
    (hl : t.lookup l = some .directory) :
    (∃ found, t.walkSteps purpose onLink l steps = .ok found) ↔ t.Passable l steps := by
  induction steps generalizing l with
  | nil => exact iff_of_true ⟨_, rfl⟩ trivial
  | cons step rest ih =>
    cases step with
    | here => exact (ih hl).trans ⟨fun hrest => ⟨hl, trivial, hrest⟩, fun hall => hall.2.2⟩
    | slash => exact (ih hl).trans ⟨fun hrest => ⟨hl, trivial, hrest⟩, fun hall => hall.2.2⟩
    | up =>
      exact (ih (h.rooted _ _ hl)).trans
        ⟨fun hrest => ⟨hl, trivial, hrest⟩, fun hall => hall.2.2⟩
    | name n =>
      show _ ↔ t.lookup l = some .directory ∧ n.utf8ByteSize ≤ Path.nameLimit ∧
        t.Passable (l ++ [n]) rest
      rw [walkSteps, if_neg (by simp [hpurpose])]
      by_cases hlength : Path.nameLimit < n.utf8ByteSize
      · rw [if_pos hlength]
        simp [Nat.not_le.mpr hlength]
      · rw [if_neg hlength]
        -- What is no directory is where the steps end, or they do not arrive.
        have hend {node : Option Node} (hnode : t.lookup (l ++ [n]) = node)
            (hother : node ≠ some .directory) : t.Passable (l ++ [n]) rest ↔ rest = [] := by
          cases rest with
          | nil => exact iff_of_true trivial rfl
          | cons second more =>
            refine iff_of_false (fun hpass => hother ?_) (by simp)
            rw [← hnode, hpass.1]
        cases hlookup : t.lookup (l ++ [n]) with
        | none =>
          by_cases hrest : rest = [] <;> simp [hl, Nat.not_lt.mp hlength, hend hlookup, hrest]
        | some node =>
          cases node with
          | directory => simpa [hl, Nat.not_lt.mp hlength] using ih hlookup
          | file content =>
            by_cases hrest : rest = [] <;> simp [hl, Nat.not_lt.mp hlength, hend hlookup, hrest]
          | link target => exact absurd hlookup (h.linkFree _ _)

/-- A path arrives exactly if it has no fault and its steps can be taken. -/
theorem Plain.reaches_iff (h : t.Plain workingDir) :
    t.Reaches workingDir .look p ↔
      p.fault? = none ∧ t.Passable (if p.isAbsolute then [] else workingDir) p.lookupSteps := by
  unfold Reaches destination
  obtain ⟨onLink, hfollow⟩ := t.exists_follow_eq .look maxLinks
  cases p.fault? with
  | some fault => simp
  | none => simpa [hfollow] using h.exists_walkSteps_iff (by decide) (h.start p)

/-- A slash behind the last name makes no difference to a directory. -/
theorem passable_lookupSteps_iff (hl : t.lookup (p.place workingDir) = some .directory) :
    t.Passable (if p.isAbsolute then [] else workingDir) p.lookupSteps ↔
      t.Passable (if p.isAbsolute then [] else workingDir) p.steps := by
  rw [← Path.foldl_enter_steps] at hl
  unfold Path.lookupSteps
  cases p.endsInSlash with
  | true => exact passable_append.trans (and_iff_left ⟨hl, trivial, trivial⟩)
  | false => exact Iff.rfl

/-- A path leads to the directory at its place exactly if its steps can be taken. -/
theorem Plain.directory?_eq_some_iff_passable (h : t.Plain workingDir) :
    t.directory? workingDir p = some l ↔
      p.fault? = none ∧ t.Passable (if p.isAbsolute then [] else workingDir) p.steps ∧
        l = p.place workingDir ∧ t.lookup (p.place workingDir) = some .directory := by
  rw [h.directory?_eq_some_iff, h.reaches_iff, and_assoc]
  refine and_congr_right fun _ => ⟨fun ⟨hpass, hplace, hl⟩ => ?_, fun ⟨hpass, hplace, hl⟩ => ?_⟩
  · exact ⟨(passable_lookupSteps_iff hl).mp hpass, hplace, hl⟩
  · exact ⟨(passable_lookupSteps_iff hl).mpr hpass, hplace, hl⟩

/-- The path of a directory keeps to the limits. -/
theorem Plain.isOpenable (h : t.Plain workingDir) (hp : t.directory? workingDir p = some l) :
    p.IsOpenable := by
  obtain ⟨hfault, hpass, -, -⟩ := h.directory?_eq_some_iff_passable.mp hp
  exact ⟨hfault, hpass.isShort⟩

/-! ## Going down -/

/-- **Going down by names.** From a directory, names of directories lead down to the last of
them, exactly if the operating system takes the path they make. -/
theorem Plain.directory?_join_ofNames (h : t.Plain workingDir) {base : Path} {names : List String}
    (hbase : t.directory? workingDir base = some d)
    (hnames : ∀ name ∈ names, IsName name ∧ isHiddenName name = false)
    (hlookup : t.lookup (d ++ names) = some .directory) :
    t.directory? workingDir (base.join (.ofNames names)) = some (d ++ names) ↔
      (base.join (.ofNames names)).IsOpenable := by
  have hrelative := Path.isAbsolute_ofNames fun n hn => (hnames n hn).1
  have htext := text_ne_empty_of_directory? hbase
  obtain ⟨-, hpass, rfl, -⟩ := h.directory?_eq_some_iff_passable.mp hbase
  have hsteps : (base.join (.ofNames names)).steps = base.steps ++ names.map .name := by
    rw [Path.steps_join htext hrelative, Path.steps_ofNames hnames]
  have hplace : (base.join (.ofNames names)).place workingDir = base.place workingDir ++ names := by
    rw [Path.place_join, Path.place_ofNames hnames]
  refine ⟨h.isOpenable, fun ⟨hfault, hshort⟩ => ?_⟩
  rw [hsteps] at hshort
  rw [h.directory?_eq_some_iff_passable, Path.isAbsolute_join htext hrelative, hsteps, hplace,
    passable_append, Path.foldl_enter_steps]
  have hback := h.passable_names hlookup fun step hstep =>
    hshort step (List.mem_append_right _ hstep)
  exact ⟨hfault, ⟨hpass, hback⟩, rfl, hlookup⟩

end FileTree

end ModuleBundler
