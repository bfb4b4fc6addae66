/-
# ModuleBundler.Proofs.Config.Precedence -- which layer of a configuration counts

Loading reads the user's file and the project's file and lays them, with the
environment on top, over what is built in. `Layers.read` is what it reads, as a
function of the files; loading is this reading and laying it over each other
(`loadLayers_run`).

Of each option, the first layer that sets it counts. Targets and the compress
section are the project's alone, so that a user's file acts through its options only
(`loadLayers_precedence`).
-/

import ModuleBundler.Config.Load
import ModuleBundler.Proofs.Config.Layers
import ModuleBundler.Proofs.Job

namespace ModuleBundler.Config

/-! ## What is read -/

/-- What is read before the layers are laid over each other. -/
structure Layers where
  user : Option Config
  project : Option Config
  baseDir : Path
  deriving DecidableEq

namespace Layers

/-- The user's file, where there is one. -/
def readUser (s : Session) : Option Path → Except Failure (Option Config)
  | none => .ok none
  | some file =>
    if s.tree.exists? s.workingDir file then (ofFile s.tree s.workingDir file).map some
    else .ok none

/-- The directory of the project's file, and the working directory without a project. -/
def readBaseDir (s : Session) : Option Path → Except Failure Path
  | some file => .ok (directoryOf file)
  | none =>
    match s.workingPath? with
    | some path => .ok path
    | none => .error ⟨[], .io .notFound⟩

/-- What the files of a session say. -/
def read (s : Session) (userFile projectFile : Option Path) : Except Failure Layers := do
  let user ← readUser s userFile
  let project ← projectFile.mapM (ofFile s.tree s.workingDir)
  let baseDir ← readBaseDir s projectFile
  return ⟨user, project, baseDir⟩

/-- The global options of the layers, from the uppermost on. -/
def options (l : Layers) (lowest : Config) (environment : EnvironmentLayer) : List Overrides :=
  [environment.overrides] ++ (l.project.map (·.bundle.options)).toList ++
    (l.user.map (·.bundle.options)).toList ++ [lowest.bundle.options]

/-- The layers laid over each other. -/
def laid (l : Layers) (lowest : Config) (environment : EnvironmentLayer) : Config :=
  ofLayers lowest l.user l.project environment l.baseDir

/-! ## What is laid -/

variable {l : Layers} {lowest : Config} {environment : EnvironmentLayer}

theorem laid_options : (l.laid lowest environment).bundle.options =
    .stack (l.options lowest environment) := by
  obtain ⟨user, project, baseDir⟩ := l
  cases user <;> cases project <;>
    simp [laid, options, ofLayers, withLayer, onTopOf, BundleSection.onTopOf, Overrides.stack,
      optionsOnly]

/-- The environment says nothing of the tasks that compress. -/
theorem laid_addsCompressTargets : (l.laid lowest environment).addsCompressTargets =
    ((l.options lowest environment).findSome? Overrides.addCompressTargets).getD false := by
  rw [addsCompressTargets, laid_options, Overrides.readsOption_addCompressTargets.stack]

/-- Over a layer without targets, the targets are those of the project as they stand. -/
theorem laid_targets (hlowest : lowest.bundle.targets = .empty) :
    (l.laid lowest environment).bundle.targets =
      (l.project.map (·.bundle.targets)).getD .empty := by
  obtain ⟨user, project, baseDir⟩ := l
  cases user <;> cases project <;>
    simp [laid, ofLayers, withLayer, onTopOf, BundleSection.onTopOf, optionsOnly, hlowest]

/-- Over a layer without a compress section, it is the one of the project. -/
theorem laid_compress (hlowest : lowest.compress = none) :
    (l.laid lowest environment).compress = l.project.bind Config.compress := by
  obtain ⟨user, project, baseDir⟩ := l
  cases user <;> cases project <;> simp [laid, ofLayers, withLayer, onTopOf, optionsOnly, hlowest]

/-- A user's file counts with its options only. -/
theorem laid_eq_of_options_eq {l' : Layers} (hproject : l'.project = l.project)
    (hbaseDir : l'.baseDir = l.baseDir)
    (huser : l'.user.map (·.bundle.options) = l.user.map (·.bundle.options)) :
    l'.laid lowest environment = l.laid lowest environment := by
  have hsplit (user : Option Config) : user.map optionsOnly =
      (user.map (·.bundle.options)).map fun o => { bundle := { options := o } } := by
    cases user <;> rfl
  have hsame : l'.user.map optionsOnly = l.user.map optionsOnly := by
    rw [hsplit, hsplit, huser]
  simp only [laid, ofLayers, hsame, hproject, hbaseDir]

end Layers

/-! ## Loading -/

/-- Loading the user's file reads it, and reports what it says beside its options. -/
theorem loadUser_run (file : Option Path) (s : Session) :
    ∃ notices, (loadUser file).run s =
      (Layers.readUser s file, { s with notices := notices }) := by
  cases file with
  | none => exact ⟨s.notices, rfl⟩
  | some file =>
    rw [loadUser, Job.run_bind_of_ok (Job.run_get s)]
    simp only [Layers.readUser]
    split
    · cases hfile : ofFile s.tree s.workingDir file with
      | error f => exact ⟨s.notices, by rw [Job.run_bind_of_error (Job.run_ofExcept _ s)]; rfl⟩
      | ok c =>
        rw [Job.run_bind_of_ok (Job.run_ofExcept _ s)]
        split
        · exact ⟨s.notices ++ [.event (ignoredSectionsEvent file)], rfl⟩
        · exact ⟨s.notices, rfl⟩
    · exact ⟨s.notices, rfl⟩

theorem workingPath_run (s : Session) :
    workingPath.run s = (Layers.readBaseDir s none, s) := by
  rw [workingPath, Job.run_bind_of_ok (Job.run_get s), Layers.readBaseDir]
  cases s.workingPath? with
  | none => exact Job.run_fail _ s
  | some path => exact Job.run_pure path s

/-- Loading reads the files and lays what they say over each other. -/
theorem loadLayers_run (lowest : Config) (userFile projectFile : Option Path)
    (environment : EnvironmentLayer) (s : Session) :
    ∃ notices, (loadLayers lowest userFile projectFile environment).run s =
      ((Layers.read s userFile projectFile).map (·.laid lowest environment),
        { s with notices := notices }) := by
  obtain ⟨notices, huser⟩ := loadUser_run userFile s
  refine ⟨notices, ?_⟩
  rw [loadLayers, Layers.read]
  cases hread : Layers.readUser s userFile with
  | error f => rw [hread] at huser; rw [Job.run_bind_of_error huser]; rfl
  | ok user =>
    rw [hread] at huser
    rw [Job.run_bind_of_ok huser, Job.run_bind_of_ok (Job.run_get _)]
    cases hproject : projectFile.mapM (ofFile s.tree s.workingDir) with
    | error f => rw [Job.run_bind_of_error (Job.run_ofExcept _ _)]; rfl
    | ok project =>
      rw [Job.run_bind_of_ok (Job.run_ofExcept _ _)]
      cases projectFile with
      | some file => rfl
      | none =>
        -- The working directory does not depend on what was reported.
        have hbaseDir : Layers.readBaseDir { s with notices := notices } none =
            Layers.readBaseDir s none := rfl
        rw [Job.run_bind, workingPath_run, hbaseDir]
        cases Layers.readBaseDir s none <;> rfl

/-- What loading the layers gives is what was read, laid over the lowest one. -/
theorem exists_layers_of_loadLayers {lowest : Config} {userFile projectFile : Option Path}
    {environment : EnvironmentLayer} {s s' : Session} {c : Config}
    (h : (loadLayers lowest userFile projectFile environment).run s = (.ok c, s')) :
    ∃ l : Layers, Layers.read s userFile projectFile = .ok l ∧ c = l.laid lowest environment := by
  obtain ⟨notices, hrun⟩ := loadLayers_run lowest userFile projectFile environment s
  rw [hrun] at h
  obtain ⟨l, hread, hlaid⟩ := Job.exists_of_map_eq_ok (Prod.mk.inj h).1
  exact ⟨l, hread, hlaid.symm⟩

/-- Without a file that is named, the project's file is looked for from the working directory. -/
theorem projectFile_none_run (s : Session) : (projectFile none).run s =
    ((Layers.readBaseDir s none).map (findProjectFile s.tree s.workingDir), s) := by
  show ((workingPath >>= _).run s) = _
  rw [Job.run_bind, workingPath_run]
  cases Layers.readBaseDir s none <;> rfl

/-- A configuration that is loaded is what was read, laid over what is built in. -/
theorem exists_layers_of_load {explicit : Option Path} {s s' : Session} {c : Config}
    (h : (load explicit).run s = (.ok c, s')) :
    ∃ (file : Option Path) (l : Layers), (projectFile explicit).run s = (.ok file, s) ∧
      Layers.read s (userFile? s.environment) file = .ok l ∧
      c = l.laid builtIn (.ofEnvironment s.environment) := by
  obtain ⟨outcome, hproject⟩ : ∃ outcome, (projectFile explicit).run s = (outcome, s) := by
    cases explicit with
    | some file => exact ⟨.ok (some file), rfl⟩
    | none => exact ⟨_, projectFile_none_run s⟩
  cases outcome with
  | error f =>
    rw [load, Job.run_bind_of_error hproject] at h
    cases h
  | ok file =>
    rw [load, Job.run_bind_of_ok hproject, Job.run_bind_of_ok (Job.run_get _), Job.run_bind] at h
    split at h
    · next loaded s₁ hrun =>
      obtain ⟨l, hread, rfl⟩ := exists_layers_of_loadLayers hrun
      refine ⟨file, l, hproject, hread, ?_⟩
      -- Only the check is left, which gives what it was given.
      split at h
      · cases h
        rfl
      · cases h
    · cases h

/-- Over what is built in, which declares nothing, the targets and the compress section are those
of the project as they stand. -/
theorem loadLayers_builtIn {userFile projectFile : Option Path} {environment : EnvironmentLayer}
    {s s' : Session} {c : Config}
    (h : (loadLayers builtIn userFile projectFile environment).run s = (.ok c, s')) :
    ∃ l : Layers, Layers.read s userFile projectFile = .ok l ∧
      c.bundle.targets = (l.project.map (·.bundle.targets)).getD .empty ∧
      c.compress = l.project.bind Config.compress := by
  obtain ⟨l, hread, rfl⟩ := exists_layers_of_loadLayers h
  exact ⟨l, hread, Layers.laid_targets rfl, Layers.laid_compress rfl⟩

/-- **Which layer counts.** Take any lowest layer, any files of the user and of the project
and any environment with which loading gives a configuration. Each option of a target is what
the first layer says that sets it: the target, the environment, the project, the user and at
last the lowest layer; an empty variable name counts as set and stands for none. Whether
compressing is wired up is decided without the target. The targets and the compress section are
those of the project, as far as the lowest layer has none, and a user's file acts through its
options only: with any other that sets the same, the same configuration is loaded. -/
theorem loadLayers_precedence {lowest : Config} {userFile projectFile : Option Path}
    {environment : EnvironmentLayer} {s s' : Session} {c : Config}
    (hload : (loadLayers lowest userFile projectFile environment).run s = (.ok c, s')) :
    ∃ l : Layers, Layers.read s userFile projectFile = .ok l ∧
      (∀ target : Overrides,
        let order := target :: l.options lowest environment
        Options.resolve c.bundle.options target =
          { root := (order.findSome? Overrides.root).getD ""
            definitionToken := (order.findSome? Overrides.definitionToken).getD "define("
            concatenateOnly := (order.findSome? Overrides.concatenateOnly).getD false
            varName := (order.findSome? Overrides.varName).filter (· ≠ "") }) ∧
      c.addsCompressTargets =
        ((l.options lowest environment).findSome? Overrides.addCompressTargets).getD false ∧
      (lowest.bundle.targets = .empty →
        c.bundle.targets = (l.project.map (·.bundle.targets)).getD .empty) ∧
      (lowest.compress = none → c.compress = l.project.bind Config.compress) ∧
      ∀ (other : Session) (otherFile : Option Path) (l' : Layers),
        Layers.read other otherFile projectFile = .ok l' →
        l'.project = l.project → l'.baseDir = l.baseDir →
        l'.user.map (·.bundle.options) = l.user.map (·.bundle.options) →
        ((loadLayers lowest otherFile projectFile environment).run other).1 = .ok c := by
  obtain ⟨l, hread, rfl⟩ := exists_layers_of_loadLayers hload
  refine ⟨l, hread, fun target => ?_, Layers.laid_addsCompressTargets, Layers.laid_targets,
    Layers.laid_compress, ?_⟩
  · rw [Layers.laid_options, Options.resolve_stack]
  · intro other otherFile l' hother hproject hbaseDir huser
    obtain ⟨_, hrun'⟩ := loadLayers_run lowest otherFile projectFile environment other
    rw [hrun', hother]
    exact congrArg Except.ok (Layers.laid_eq_of_options_eq hproject hbaseDir huser)

/-- A user's file with a target and a compress section of its own, below a project and an
environment that sets the root: the target's empty variable name masks the user's. -/
theorem loadLayers_precedence_masked :
    let userText := "[bundle.options]\nroot = 'src/'\nvar_name = '__FILE'\n" ++
      "[bundle.mine]\ndest = 'mine.js'\n[compress]\ncommand = ['minify']\n"
    let projectText := "[bundle.options]\nconcatenate_only = true\n[bundle.app]\ndest = 'app.js'\n"
    let s : Session :=
      { tree :=
          { entries := [(["user.toml"], .file (.text userText)),
              (["project.toml"], .file (.text projectText))] } }
    ∃ c s', (loadLayers builtIn (some ⟨"/user.toml"⟩) (some ⟨"/project.toml"⟩)
        ⟨some "web/", none⟩).run s = (.ok c, s') ∧
      Options.resolve c.bundle.options { varName := some "" } =
        { root := "web/", concatenateOnly := true, varName := none } ∧
      c.bundle.targets.map Prod.fst = ["app"] ∧ c.compress = none := by
  intro userText projectText s
  let l : Layers :=
    { user := some
        { bundle :=
            { options := { root := some "src/", varName := some "__FILE" }
              targets := { entries := [("mine", { dest := some ⟨"mine.js"⟩ })] } }
          compress := some ⟨["minify"]⟩ }
      project := some
        { bundle :=
            { options := { concatenateOnly := some true }
              targets := { entries := [("app", { dest := some ⟨"app.js"⟩ })] } } }
      baseDir := ⟨"/"⟩ }
  have hread : Layers.read s (some ⟨"/user.toml"⟩) (some ⟨"/project.toml"⟩) = .ok l :=
    Job.eq_ok_of_toOption_eq_some (by decide +kernel)
  obtain ⟨notices, hrun⟩ := loadLayers_run builtIn (some ⟨"/user.toml"⟩) (some ⟨"/project.toml"⟩)
    ⟨some "web/", none⟩ s
  rw [hread] at hrun
  obtain ⟨l', hread', hresolve, -, htargets, hcompress, -⟩ := loadLayers_precedence hrun
  obtain rfl : l = l' := Except.ok.inj (hread.symm.trans hread')
  refine ⟨_, _, hrun, hresolve _, ?_, hcompress rfl⟩
  rw [htargets rfl]
  rfl

end ModuleBundler.Config
