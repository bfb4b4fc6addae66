/-
# ModuleBundler.Main -- the program on the files of this machine

The outer layer. It reads what a run can see into a session: the environment, and
the directories of the project's and the user's configuration with everything
below them. The library runs the program on that session, and what the run changed
is written back. Compress commands run in the session too, in the library's own
shell.

With `--watch`, the files are read again several times a second, and what differs
is handed over as one burst of changes.
-/

import ModuleBundler.Execution

namespace ModuleBundler.Main

/-! ## Reading -/

/-- The location that an absolute path without `..` names. -/
def locationOf (path : String) : Location :=
  (Path.components ⟨path⟩).filterMap fun component =>
    match component with
    | .name name => some name
    | _ => none

/-- What stands at an entry of a directory and below it. What cannot be read, and
a link that leads nowhere, is passed over. -/
partial def readEntry (entry : IO.FS.DirEntry) : IO (List (Location × Node)) := do
  let location := locationOf entry.path.toString
  try
    match (← entry.path.symlinkMetadata).type with
    | .dir => do
      let below ← (← entry.path.readDir).toList.mapM readEntry
      return (location, .directory) :: below.flatten
    | .file => do
      let bytes ← IO.FS.readBinFile entry.path
      return [(location, .file (.ofBytes bytes.toList))]
    | .symlink => do
      let target ← IO.FS.realPath entry.path
      return [(location, .link target.toString)]
    | .other => return []
  catch _ => return []

/-- What is in a directory; nothing if it cannot be read. -/
def readDirectory (path : String) : IO (List (Location × Node)) := do
  try
    let root ← IO.FS.realPath path
    readEntry ⟨root, "."⟩
  catch _ => return []

/-- The variables that a run looks at. -/
def variableNames : List String :=
  ["HOME", "XDG_CONFIG_HOME", "AMDBUNDLE_ROOT", "AMDBUNDLE_VAR_NAME", "RUST_LOG", "PATH"]

/-- The environment, as far as a run looks at it. -/
def readEnvironment : IO Environment := do
  let settings ← variableNames.mapM fun name => return (name, ← IO.getEnv name)
  return settings.filterMap fun setting => setting.2.map fun value => (setting.1, value)

/-- Whether a file can be read. -/
def isReadable (path : String) : IO Bool := do
  try
    let _ ← IO.FS.readBinFile path
    return true
  catch _ => return false

/-- The directories above a directory, itself included, that hold a project file. -/
def projectDirectories (workingDir : Path) : IO (List String) := do
  let candidates := workingDir :: workingDir.parents
  let holding ← candidates.filterM fun directory =>
    isReadable (directory.join ⟨Config.projectFileName⟩).text
  return holding.map Path.text

/-- The directories that a run can see. -/
def visibleDirectories (i : CommandLine.Invocation) (workingDir : Path) (e : Environment) :
    IO (List String) := do
  let user := ((Config.userFile? e).map fun file => (Config.directoryOf file).text).toList
  match i.config with
  | some file => return (Config.directoryOf (workingDir.join ⟨file⟩)).text :: user
  | none => return (← projectDirectories workingDir).take 1 ++ user

/-- The files of some directories, and the working directory. -/
def readTree (workingDir : Location) (directories : List String) : IO FileTree := do
  let entries ← directories.mapM readDirectory
  return entries.flatten.foldl (fun t entry =>
    (t.ensureLocation entry.1.dropLast).insert entry.1 entry.2)
    (FileTree.empty.ensureLocation workingDir)

/-! ## Writing -/

/-- Writes what differs between two trees. -/
def save (before after : FileTree) : IO Unit :=
  (before.differences after).forM fun location => do
    let path := (FileTree.pathOf location).text
    match after.lookup location, before.lookup location with
    | some (.file content), _ => IO.FS.writeBinFile path ⟨content.toBytes.toArray⟩
    | some .directory, _ => IO.FS.createDirAll path
    | some (.link _), _ => return
    | none, some .directory => IO.FS.removeDirAll path
    | none, _ => IO.FS.removeFile path

/-- Writes what a run wrote. -/
def emit (written : Execution.Written) : IO Unit := do
  let output ← IO.getStdout
  output.write ⟨written.output.toArray⟩
  output.flush
  (← IO.getStderr).write ⟨written.errors.toArray⟩

/-! ## Running -/

/-- Goes on watching. -/
partial def follow (i : CommandLine.Invocation) (directories : List String) (s : Session)
    (w : Program.Watching) : IO Unit := do
  IO.sleep 200
  let seen ← readTree s.workingDir directories
  match s.tree.changesTo seen with
  | [] => follow i directories s w
  | changes => do
    let ((w, written), after) := (Execution.burst i w [] changes).run s
    emit written
    save seen after.tree
    follow i directories after w

/-- Runs the program on a command line that can be run. -/
def runOn (i : CommandLine.Invocation) : IO UInt32 := do
  let workingDir := (← IO.currentDir).toString
  let environment ← readEnvironment
  let directories ← visibleDirectories i ⟨workingDir⟩ environment
  let s : Session := {
    tree := ← readTree (locationOf workingDir) directories
    workingDir := locationOf workingDir
    environment := environment }
  let (ran, after) := (Execution.run i).run s
  emit ran.written
  save s.tree after.tree
  if let some w := ran.watching then follow i directories after w
  return UInt32.ofNat ran.exitCode

end ModuleBundler.Main

/-- Reads the command line and runs the program. -/
def main (args : List String) : IO UInt32 :=
  match ModuleBundler.CommandLine.parse args with
  | .ok i => ModuleBundler.Main.runOn i
  | .error e => do
    if e.fault.exitCode = 0 then IO.print e.text else IO.eprint e.text
    return UInt32.ofNat e.fault.exitCode
