/-
# ModuleBundler.Shell.Installation -- what every machine has

Commands see more files than those that a run works on: the usual directories of the
system, and the programs that are installed in one of them. These are laid under the
tree that a command starts with (`under`), and taken away from the one it leaves, as
far as nothing was put there (`taken`).
-/

import ModuleBundler.Shell.Program

namespace ModuleBundler.Shell.Installation

/-- The usual directories, those above others in front. -/
def directories : List Location :=
  [ ["boot"], ["dev"], ["dev", "fd"], ["dev", "pts"], ["dev", "shm"], ["etc"], ["home"],
    ["media"], ["mnt"], ["opt"], ["proc"], ["root"], ["run"], ["srv"], ["sys"], ["tmp"],
    ["usr"], ["usr", "bin"], ["usr", "games"], ["usr", "include"], ["usr", "lib"],
    ["usr", "lib64"], ["usr", "libexec"], ["usr", "local"], ["usr", "local", "bin"],
    ["usr", "local", "etc"], ["usr", "local", "lib"], ["usr", "local", "sbin"],
    ["usr", "local", "share"], ["usr", "sbin"], ["usr", "share"], ["usr", "src"], ["var"],
    ["var", "cache"], ["var", "lib"], ["var", "log"], ["var", "tmp"] ]

/-- The usual links, with their targets. -/
def links : List (Location × String) :=
  [ (["bin"], "usr/bin"), (["lib"], "usr/lib"), (["lib64"], "usr/lib64"), (["sbin"], "usr/sbin"),
    (["var", "run"], "/run") ]

/-- The usual files, with what they hold. -/
def files : List (Location × String) :=
  [ (["etc", "group"], "root:x:0:\n"), (["etc", "hosts"], "127.0.0.1\tlocalhost\n"),
    (["etc", "passwd"], "root:x:0:0:root:/root:/bin/bash\n") ]

/-- The names of all programs. -/
def programNames : List String :=
  Program.shellNames ++ [Program.environmentName] ++ Tool.names

/-- All that is there, by its location. -/
def entries : List (Location × Node) :=
  (directories.map fun l => (l, .directory)) ++
  (links.map fun entry => (entry.1, .link entry.2)) ++
  (files.map fun entry => (entry.1, .file (.text entry.2))) ++
  programNames.map fun name => (programDirectory ++ [name], .file (.text "\x7fELF"))

/-- A tree with all that every machine has, where nothing else is. -/
def under (t : FileTree) : FileTree :=
  (entries.filter fun entry => (t.lookup entry.1).isNone).foldl
    (fun t entry => t.insert entry.1 entry.2) t

/-- A tree without what was laid under the one it came from. A directory in which
something new stands is kept. -/
def taken (before after : FileTree) : FileTree :=
  let own := after.entries.filter fun entry =>
    !entries.contains entry || (before.lookup entry.1).isSome
  after.filter fun entry =>
    own.contains entry || own.any fun other => entry.1.isPrefixOf other.1

end ModuleBundler.Shell.Installation
