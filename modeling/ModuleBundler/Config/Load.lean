/-
# ModuleBundler.Config.Load -- where a configuration comes from

Four layers make a configuration, from the bottom: what is built in, the options
of the user's file, the project's file, and the environment. The user's file sets
options only. The project's file is named, or found in the working directory or
the nearest directory above it that holds one; its directory becomes the base
directory. Without a project, the base directory is the working directory.

The configuration is checked once all layers are in place.
-/

import ModuleBundler.Config.Decode
import ModuleBundler.Session

namespace ModuleBundler

namespace Config

/-! ## Laying the layers over each other -/

/-- The options that the environment sets. -/
structure EnvironmentLayer where
  root : Option String := none
  varName : Option String := none
  deriving DecidableEq, Repr

/-- The options that the variables of the environment set. -/
def EnvironmentLayer.ofEnvironment (e : Environment) : EnvironmentLayer where
  root := e.get? "AMDBUNDLE_ROOT"
  varName := e.get? "AMDBUNDLE_VAR_NAME"

/-- The layer as options. -/
def EnvironmentLayer.overrides (l : EnvironmentLayer) : Overrides :=
  { root := l.root, varName := l.varName }

/-- A layer that may be missing, laid over another. -/
def withLayer : Option Config → Config → Config
  | some upper, lower => upper.onTopOf lower
  | none, lower => lower

/-- All layers laid over each other, from the lowest, which holds where no other says
otherwise. The user's file, which comes as it was read, counts with its options only. -/
def ofLayers (lowest : Config) (user project : Option Config) (environment : EnvironmentLayer)
    (baseDir : Path) : Config :=
  let files := withLayer project (withLayer (user.map optionsOnly) lowest)
  { files with
    bundle := { files.bundle with options := environment.overrides.onTopOf files.bundle.options }
    baseDir := baseDir }

/-! ## Finding the files -/

/-- The name of a project's file. -/
def projectFileName : String := "amdbundle.toml"

/-- The path of the user's file: below `XDG_CONFIG_HOME` if that is an absolute
path, and below `.config` in the home directory otherwise. -/
def userFile? (e : Environment) : Option Path :=
  let directory : Option Path :=
    match e.get? "XDG_CONFIG_HOME" with
    | some d => if Path.isAbsolute ⟨d⟩ then some ⟨d⟩ else home
    | none => home
  directory.map fun d => d.join ⟨"amdbundle/config.toml"⟩
where
  /-- The directory below the home directory. -/
  home : Option Path :=
    match e.get? "HOME" with
    | some h => if h = "" then none else some (Path.join ⟨h⟩ ⟨".config"⟩)
    | none => none

/-- The project file of the nearest directory that holds one, among a directory
and those above it. A directory of that name is none. -/
def findProjectFile (t : FileTree) (workingDir : Location) (start : Path) : Option Path :=
  ((start :: start.parents).map fun d => d.join ⟨projectFileName⟩).find? fun candidate =>
    t.isFile workingDir candidate

/-- The directory of a project's file. -/
def directoryOf (file : Path) : Path :=
  match file.parent? with
  | some parent => if parent.text = "" then ⟨"."⟩ else parent
  | none => ⟨"."⟩

/-! ## Loading -/

/-- The event that reports a user's file that says more than it may. -/
def ignoredSectionsEvent (file : Path) : Log.Event :=
  ⟨.warn, .configuration, "user config may only set [bundle.options]; ignoring targets and [compress]",
    [("config", .bare file.text)]⟩

/-- Reads the user's file, if it is there. -/
def loadUser (file : Option Path) : Job (Option Config) := do
  let s ← get
  match file with
  | none => return none
  | some file =>
    if s.tree.exists? s.workingDir file then
      let c ← Job.ofExcept (ofFile s.tree s.workingDir file)
      if !c.bundle.targets.entries.isEmpty || c.compress.isSome then
        Job.report (ignoredSectionsEvent file)
      return some c
    else return none

/-- The path of the working directory, which must be there. -/
def workingPath : Job Path := do
  match (← get).workingPath? with
  | some path => return path
  | none => Job.fail ⟨[], .io .notFound⟩

/-- The project's file of a run: the one that is named, or else the nearest one. -/
def projectFile (explicit : Option Path) : Job (Option Path) := do
  match explicit with
  | some file => return some file
  | none => do
    let path ← workingPath
    let s ← get
    return findProjectFile s.tree s.workingDir path

/-- Loads the layers on top of the lowest one: the user's file, the project's file, which
must be there if there is a project, and the environment. -/
def loadLayers (lowest : Config) (userFile projectFile : Option Path)
    (environment : EnvironmentLayer) : Job Config := do
  let user ← loadUser userFile
  let s ← get
  let project ← Job.ofExcept (projectFile.mapM (ofFile s.tree s.workingDir))
  let baseDir ← match projectFile with
    | some file => pure (directoryOf file)
    | none => workingPath
  return ofLayers lowest user project environment baseDir

/-- Loads the configuration of a run; a file that is named must be there. -/
def load (explicit : Option Path) : Job Config := do
  let file ← projectFile explicit
  let e := (← get).environment
  let c ← loadLayers builtIn (userFile? e) file (.ofEnvironment e)
  match c.check with
  | .ok () => return c
  | .error e => Job.fail ⟨[], .config e⟩

end Config

end ModuleBundler
