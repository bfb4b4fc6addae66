/-
# ModuleBundler.Proofs.Config.Discovery -- the project of a working directory

Without a file that is named, the project's file is looked for in the working directory and on the
way up from it. `findProjectFile_step` is one step of this search; as a parent has a component
less, it ends, at the latest at the root directory. The directories on the way get shorter, so
that the first one with a project file is the deepest (`findProjectFile_eq_some_iff`).

The file's path is all that is kept of the search, and the base directory is taken from it. That
gives back the directory that the file was found in, without silent pieces at its end
(`directoryOf_join`).
-/

import ModuleBundler.Proofs.Config.Precedence
import ModuleBundler.Proofs.Path.Parents

namespace ModuleBundler

/-! ## Paths of locations -/

namespace FileTree

theorem isAbsolute_pathOf (l : Location) : (pathOf l).isAbsolute = true := by
  simp [pathOf, Path.isAbsolute]

theorem toList_pathOf (l : Location) :
    (pathOf l).text.toList = '/' :: Text.joinWith '/' (l.map String.toList) := by
  have hjoin : ∀ pieces : List (List Char),
      ['/'].intercalate pieces = Text.joinWith '/' pieces := by
    intro pieces
    induction pieces with
    | nil => rfl
    | cons piece rest ih =>
      cases rest with
      | nil => exact List.intercalate_singleton
      | cons second more =>
        rw [List.intercalate_cons_cons, ih, Text.joinWith_cons _ _ (List.cons_ne_nil _ _)]
        simp
  rw [pathOf, String.toList_append, String.toList_intercalate, ← hjoin]
  rfl

/-- A path of names has no silent pieces at its end. -/
theorem trimmed_pathOf {l : Location} (hnamed : IsNamed l) (hdot : "." ∉ l) :
    (pathOf l).trimmed = pathOf l := by
  by_cases hne : l = []
  · rw [hne]
    decide
  · have hpieces : (pathOf l).piecesUp = (l.map String.toList).reverse := by
      rw [Path.piecesUp, Path.segments, toList_pathOf]
      show (Text.splitOn '/' (Text.joinWith '/' (l.map String.toList))).reverse = _
      rw [Text.splitOn_joinWith (by simpa using hne)]
      exact fun piece hpiece => (Path.IsName.piece hnamed piece hpiece).2
    apply Path.trimmed_eq_self (isAbsolute_pathOf l)
    intro piece hpiece
    rw [hpieces, List.mem_reverse] at hpiece
    obtain ⟨name, hname, rfl⟩ := List.mem_map.mp hpiece
    apply Path.isSilent_name (hnamed name hname)
    rintro rfl
    exact hdot hname

theorem trimmed_of_mem_ancestors_pathOf {l : Location} {d : Path} (hnamed : IsNamed l)
    (hdot : "." ∉ l) (hd : d ∈ pathOf l :: (pathOf l).parents) : d.trimmed = d := by
  rcases List.mem_cons.mp hd with rfl | hparent
  · exact trimmed_pathOf hnamed hdot
  · exact (Path.trimmed_of_mem_parents (isAbsolute_pathOf l) hparent).2

end FileTree

namespace Config

variable {t : FileTree} {workingDir : Location} {start d : Path} {directories : List Path}

/-! ## The search -/

/-- A directory holds a project file: a regular file of the name, or a link that leads to one. -/
def HoldsProject (t : FileTree) (workingDir : Location) (d : Path) : Prop :=
  ∃ l content, t.find workingDir (d.join ⟨projectFileName⟩) = .ok (l, .file content)

theorem isFile_iff_holdsProject :
    t.isFile workingDir (d.join ⟨projectFileName⟩) = true ↔ HoldsProject t workingDir d := by
  unfold FileTree.isFile HoldsProject
  rcases t.find workingDir (d.join ⟨projectFileName⟩) with e | ⟨l, node⟩
  · simp
  · cases node <;> simp [Node.isFile]

/-- The search looks into one directory, and goes on in its parent. -/
theorem findProjectFile_step (h : d.isAbsolute = true) : findProjectFile t workingDir d =
    if t.isFile workingDir (d.join ⟨projectFileName⟩) then some (d.join ⟨projectFileName⟩)
    else d.parent?.bind (findProjectFile t workingDir) := by
  rw [findProjectFile, List.map_cons, List.find?_cons]
  cases t.isFile workingDir (d.join ⟨projectFileName⟩) with
  | true => rfl
  | false =>
    rw [if_neg Bool.false_ne_true]
    cases hparent : d.parent? with
    | none =>
      have hnone : d.parents = [] := List.head?_eq_none_iff.mp hparent
      rw [hnone]
      rfl
    | some q =>
      rw [(Path.parents_eq_cons h hparent).1]
      rfl

/-! ## The directory that is found -/

/-- The deepest one of some directories that hold a project file. -/
structure Nearest (t : FileTree) (workingDir : Location) (directories : List Path) (d : Path) :
    Prop where
  mem : d ∈ directories
  holds : HoldsProject t workingDir d
  deepest : ∀ deeper ∈ directories, d.components.length < deeper.components.length →
    ¬ HoldsProject t workingDir deeper

/-- Of directories that get shorter, the first one that holds a project file is the deepest. -/
theorem find?_eq_some_iff_nearest (hshorter : directories.Pairwise fun d above =>
      above.components.length < d.components.length) :
    (directories.find? fun d => t.isFile workingDir (d.join ⟨projectFileName⟩)) = some d ↔
      Nearest t workingDir directories d := by
  rw [List.find?_eq_some_iff_append, isFile_iff_holdsProject]
  constructor
  · rintro ⟨hholds, front, behind, rfl, hfront⟩
    refine ⟨by simp, hholds, ?_⟩
    intro deeper hdeeper hlength hholds'
    obtain ⟨-, hbehind, -⟩ := List.pairwise_append.mp hshorter
    rcases List.mem_append.mp hdeeper with hbefore | hafter
    · have hnone := hfront deeper hbefore
      rw [isFile_iff_holdsProject.mpr hholds'] at hnone
      cases hnone
    · rcases List.mem_cons.mp hafter with rfl | hmem
      · omega
      · have hless := List.rel_of_pairwise_cons hbehind hmem
        omega
  · intro h
    obtain ⟨front, behind, rfl⟩ := List.append_of_mem h.mem
    refine ⟨h.holds, front, behind, rfl, ?_⟩
    intro deeper hdeeper
    obtain ⟨-, -, hacross⟩ := List.pairwise_append.mp hshorter
    have hnone := h.deepest deeper (List.mem_append_left _ hdeeper)
      (hacross deeper hdeeper d List.mem_cons_self)
    rw [← isFile_iff_holdsProject] at hnone
    simpa using hnone

theorem findProjectFile_eq_map : findProjectFile t workingDir start =
    ((start :: start.parents).find? fun d => t.isFile workingDir (d.join ⟨projectFileName⟩)).map
      fun d => d.join ⟨projectFileName⟩ := by
  rw [findProjectFile, List.find?_map]
  rfl

theorem findProjectFile_eq_some_iff (h : start.isAbsolute = true) {file : Path} :
    findProjectFile t workingDir start = some file ↔
      ∃ d, Nearest t workingDir (start :: start.parents) d ∧ file = d.join ⟨projectFileName⟩ := by
  rw [findProjectFile_eq_map, Option.map_eq_some_iff]
  apply exists_congr
  intro d
  rw [find?_eq_some_iff_nearest (Path.pairwise_ancestors h), eq_comm]

theorem findProjectFile_eq_none_iff : findProjectFile t workingDir start = none ↔
    ∀ d ∈ start :: start.parents, ¬ HoldsProject t workingDir d := by
  rw [findProjectFile_eq_map, Option.map_eq_none_iff, List.find?_eq_none]
  simp only [isFile_iff_holdsProject]

/-! ## The base directory -/

/-- The directory of a file that was found in a directory is that directory. -/
theorem directoryOf_join (h : d.isAbsolute = true) :
    directoryOf (d.join ⟨projectFileName⟩) = d.trimmed := by
  have hparent : (d.join ⟨projectFileName⟩).parent? = some d.trimmed := by
    rw [Path.parent?, Path.parents_join_name h (by decide) (by decide)]
    rfl
  have htext : d.trimmed.text ≠ "" := Path.text_ne_empty_of_isAbsolute Path.isAbsolute_ofReversed
  rw [directoryOf, hparent]
  exact if_neg htext

theorem Layers.readBaseDir_of_read {s : Session} {userFile projectFile : Option Path} {l : Layers}
    (h : Layers.read s userFile projectFile = .ok l) :
    Layers.readBaseDir s projectFile = .ok l.baseDir := by
  obtain ⟨user, -, h⟩ := Job.exists_of_bind_eq_ok h
  obtain ⟨project, -, h⟩ := Job.exists_of_bind_eq_ok h
  obtain ⟨baseDir, hbaseDir, h⟩ := Job.exists_of_bind_eq_ok h
  cases h
  exact hbaseDir

theorem Layers.workingPath?_of_readBaseDir {s : Session} {cwd : Path}
    (h : Layers.readBaseDir s none = .ok cwd) : s.workingPath? = some cwd := by
  unfold Layers.readBaseDir at h
  dsimp only at h
  split at h
  · next hpath =>
    cases h
    exact hpath
  · cases h

theorem eq_pathOf_of_workingPath? {s : Session} {cwd : Path} (h : s.workingPath? = some cwd) :
    cwd = FileTree.pathOf s.workingDir := by
  obtain ⟨node, -, hpath⟩ := Option.map_eq_some_iff.mp h
  exact hpath.symm

/-- A configuration that is loaded without a file that is named comes from the working directory
and the file that is found from there. -/
theorem exists_workingPath_of_load {s s' : Session} {c : Config}
    (h : (load none).run s = (.ok c, s')) : ∃ cwd l, s.workingPath? = some cwd ∧
      Layers.read s (userFile? s.environment) (findProjectFile s.tree s.workingDir cwd) = .ok l ∧
      c = l.laid builtIn (.ofEnvironment s.environment) := by
  obtain ⟨file, l, hfile, hread, hc⟩ := exists_layers_of_load h
  rw [projectFile_none_run] at hfile
  obtain ⟨cwd, hcwd, hfound⟩ := Job.exists_of_map_eq_ok (Prod.mk.inj hfile).1
  rw [← hfound] at hread
  exact ⟨cwd, l, Layers.workingPath?_of_readBaseDir hcwd, hread, hc⟩

/-- The base directory is where the file was found, and the working directory without one. -/
theorem baseDir_of_load {s s' : Session} {c : Config} (h : (load none).run s = (.ok c, s')) :
    ∃ cwd l, s.workingPath? = some cwd ∧ cwd.isAbsolute = true ∧
      Layers.read s (userFile? s.environment) (findProjectFile s.tree s.workingDir cwd) = .ok l ∧
      c = l.laid builtIn (.ofEnvironment s.environment) ∧
      (∀ d, Nearest s.tree s.workingDir (cwd :: cwd.parents) d →
        c.baseDir.components = d.components ∧
        (FileTree.IsNamed s.workingDir → "." ∉ s.workingDir → c.baseDir = d)) ∧
      ((∀ d ∈ cwd :: cwd.parents, ¬ HoldsProject s.tree s.workingDir d) → c.baseDir = cwd) := by
  obtain ⟨cwd, l, hcwd, hread, rfl⟩ := exists_workingPath_of_load h
  obtain rfl := eq_pathOf_of_workingPath? hcwd
  have habsolute := FileTree.isAbsolute_pathOf s.workingDir
  refine ⟨_, l, hcwd, habsolute, hread, rfl, ?_, ?_⟩
  · intro d hnearest
    have hd := Path.isAbsolute_of_mem_ancestors habsolute hnearest.mem
    rw [(findProjectFile_eq_some_iff habsolute).mpr ⟨d, hnearest, rfl⟩] at hread
    have hbaseDir : l.baseDir = d.trimmed := by
      rw [← directoryOf_join hd]
      exact (Except.ok.inj (Layers.readBaseDir_of_read hread)).symm
    show l.baseDir.components = _ ∧ (_ → _ → l.baseDir = d)
    rw [hbaseDir]
    refine ⟨Path.components_trimmed hd, ?_⟩
    intro hnamed hdot
    exact FileTree.trimmed_of_mem_ancestors_pathOf hnamed hdot hnearest.mem
  · intro hnone
    rw [findProjectFile_eq_none_iff.mpr hnone] at hread
    have hbaseDir := Layers.workingPath?_of_readBaseDir (Layers.readBaseDir_of_read hread)
    exact (Option.some.inj (hcwd.symm.trans hbaseDir)).symm

/-- **The nearest project is found.** For every file tree and every absolute directory to start
from:
* the search looks into the directory and goes on in its parent, which has a component less; at
  the root directory it ends;
* so the directories that it may look into are those of all the first components of the start,
  from the start up to the root directory;
* it finds a file exactly if that is the file of the deepest of these directories in which
  `amdbundle.toml` is a regular file or a link to one, whatever else is called so below it;
* it finds none exactly if none of them has one.
Where a configuration is loaded without a file that is named, the search starts in the working
directory. If it finds a file, this one is read, and the base directory is the directory that it
was found in: it has the same components, and is the very same path if the working directory is
given by proper names. If it finds none, the base directory is the working directory. -/
theorem findProjectFile_nearest {start : Path} (h : start.isAbsolute = true) (t : FileTree)
    (workingDir : Location) :
    (∀ d : Path, d.isAbsolute = true → findProjectFile t workingDir d =
      if t.isFile workingDir (d.join ⟨"amdbundle.toml"⟩) then some (d.join ⟨"amdbundle.toml"⟩)
      else d.parent?.bind (findProjectFile t workingDir)) ∧
    (∀ d q : Path, d.isAbsolute = true → d.parent? = some q →
      q.isAbsolute = true ∧ q.components.length + 1 = d.components.length) ∧
    (start :: start.parents).map Path.components = start.components.inits.tail.reverse ∧
    (∀ file, findProjectFile t workingDir start = some file ↔
      ∃ d, Nearest t workingDir (start :: start.parents) d ∧ file = d.join ⟨"amdbundle.toml"⟩) ∧
    (findProjectFile t workingDir start = none ↔
      ∀ d ∈ start :: start.parents, ¬ HoldsProject t workingDir d) ∧
    ∀ (s s' : Session) (c : Config), (load none).run s = (.ok c, s') →
      ∃ cwd l, s.workingPath? = some cwd ∧ cwd.isAbsolute = true ∧
        Layers.read s (userFile? s.environment) (findProjectFile s.tree s.workingDir cwd) = .ok l ∧
        c = l.laid builtIn (.ofEnvironment s.environment) ∧
        (∀ d, Nearest s.tree s.workingDir (cwd :: cwd.parents) d →
          c.baseDir.components = d.components ∧
          (FileTree.IsNamed s.workingDir → "." ∉ s.workingDir → c.baseDir = d)) ∧
        ((∀ d ∈ cwd :: cwd.parents, ¬ HoldsProject s.tree s.workingDir d) → c.baseDir = cwd) := by
  refine ⟨fun d hd => findProjectFile_step hd, ?_, Path.components_ancestors h,
    fun file => findProjectFile_eq_some_iff h, findProjectFile_eq_none_iff,
    fun s s' c hload => baseDir_of_load hload⟩
  intro d q hd hparent
  exact (Path.parents_eq_cons hd hparent).2

/-- From `/p/q/r`, which holds a directory of the name, a link in `/p/q` is followed; the file in
the root directory is farther away. -/
theorem findProjectFile_nearest_link :
    let t : FileTree :=
      { entries := [(["amdbundle.toml"], .file (.text "[bundle.far]\n")), (["p"], .directory),
          (["p", "q"], .directory), (["p", "q", "amdbundle.toml"], .link "../near.toml"),
          (["p", "near.toml"], .file (.text "[bundle.near]\n")), (["p", "q", "r"], .directory),
          (["p", "q", "r", "amdbundle.toml"], .directory)] }
    let s : Session := { tree := t, workingDir := ["p", "q", "r"] }
    (⟨"/p/q/r"⟩ : Path).isAbsolute = true ∧
    findProjectFile t ["p", "q", "r"] ⟨"/p/q/r"⟩ = some ⟨"/p/q/amdbundle.toml"⟩ ∧
    Nearest t ["p", "q", "r"] [⟨"/p/q/r"⟩, ⟨"/p/q"⟩, ⟨"/p"⟩, ⟨"/"⟩] ⟨"/p/q"⟩ ∧
    ∃ c s', (load none).run s = (.ok c, s') ∧ c.bundle.targets.map Prod.fst = ["near"] ∧
      c.baseDir = ⟨"/p/q"⟩ := by
  intro t s
  have habsolute : (⟨"/p/q/r"⟩ : Path).isAbsolute = true := by decide
  have hup : (⟨"/p/q/r"⟩ : Path).parents = [⟨"/p/q"⟩, ⟨"/p"⟩, ⟨"/"⟩] := by decide
  have hfound : findProjectFile t ["p", "q", "r"] ⟨"/p/q/r"⟩ = some ⟨"/p/q/amdbundle.toml"⟩ := by
    decide +kernel
  obtain ⟨-, -, -, hsome, -, hloaded⟩ := findProjectFile_nearest habsolute t ["p", "q", "r"]
  obtain ⟨d, hnearest, hfile⟩ := (hsome _).mp hfound
  have honly : ∀ d ∈ [(⟨"/p/q/r"⟩ : Path), ⟨"/p/q"⟩, ⟨"/p"⟩, ⟨"/"⟩],
      ⟨"/p/q/amdbundle.toml"⟩ = d.join ⟨"amdbundle.toml"⟩ → d = ⟨"/p/q"⟩ := by
    decide
  obtain rfl : d = ⟨"/p/q"⟩ := honly d (hup ▸ hnearest.mem) hfile
  have hnames : ((load none).run s).1.toOption.map (fun c => c.bundle.targets.map Prod.fst) =
      some ["near"] := by
    decide +kernel
  obtain ⟨c, hc, hnames⟩ := Option.map_eq_some_iff.mp hnames
  have hload := Job.run_eq_of_toOption hc
  obtain ⟨cwd, l, hcwd, -, -, -, hbaseDir, -⟩ := hloaded s _ c hload
  obtain rfl : cwd = ⟨"/p/q/r"⟩ := eq_pathOf_of_workingPath? hcwd
  have hnear := (hbaseDir _ hnearest).2 (by decide) (by decide)
  rw [hup] at hnearest
  exact ⟨habsolute, hfound, hnearest, c, _, hload, hnames, hnear⟩

end Config

end ModuleBundler
