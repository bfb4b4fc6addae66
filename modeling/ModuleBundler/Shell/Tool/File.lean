/-
# ModuleBundler.Shell.Tool.File -- programs that change files

Copying, moving, linking and removing files and directories, and making empty ones.
-/

import ModuleBundler.Shell.Tool.Copy

namespace ModuleBundler.Shell.Tool

/-- The last name of a path. -/
def lastName (p : Path) : String :=
  match p.components.getLast? with
  | some (.name n) => n
  | some .up => ".."
  | _ => ""

/-- Moves one file or directory. -/
def moveOne (c : Call) (options : List Char) (e : Effect) (source goal : String) : Effect :=
  let t := e.tree
  match t.destination c.dir .entry ⟨source⟩ (Path.lookupSteps ⟨source⟩) with
  | .error error => e.complain c ("cannot stat '" ++ source ++ "': " ++ reason error)
  | .ok (.vacant _) => e.complain c ("cannot stat '" ++ source ++ "': " ++ reason .notFound)
  | .ok (.found location node) =>
    let failing (r : String) :=
      e.complain c ("cannot move '" ++ source ++ "' to '" ++ goal ++ "': " ++ r)
    let into (place : Location) : Effect :=
      if location ≠ place && location.isPrefixOf place then
        e.complain c ("cannot move '" ++ source ++ "' to a subdirectory of itself, '" ++ goal ++ "'")
      else { e with tree := t.move location place }
    match t.destination c.dir .entry ⟨goal⟩
        (if node.isDirectory then Path.steps ⟨goal⟩ else Path.lookupSteps ⟨goal⟩) with
    | .ok (.found place held) =>
      if place = location then
        e.complain c ("'" ++ source ++ "' and '" ++ goal ++ "' are the same file")
      else if options.contains 'n' then e
      else if held.isDirectory && !node.isDirectory then
        e.complain c ("cannot overwrite directory '" ++ goal ++ "' with non-directory")
      else if node.isDirectory && !held.isDirectory then
        e.complain c ("cannot overwrite non-directory '" ++ goal ++ "' with directory '" ++ source ++ "'")
      else if held.isDirectory && t.entries.any fun entry =>
          place.isPrefixOf entry.1 && entry.1 ≠ place then failing "Directory not empty"
      else into place
    | .ok (.vacant place) => into place
    | .error error => failing (reason error)

/-- A program that takes files to a path, each by its last name into it where that is
a directory. -/
def transfer (one : Call → List Char → Effect → String → String → Effect) : Tool := fun c =>
  let options := c.options
  match c.operands.reverse with
  | [] => c.misused "missing file operand"
  | [source] => c.misused ("missing destination file operand after '" ++ source ++ "'")
  | target :: sources =>
    let isDirectory := (c.tree.directory? c.dir ⟨target⟩).isSome && !options.contains 'T'
    let goal (source : String) : String :=
      if isDirectory then (Path.join ⟨target⟩ ⟨lastName ⟨source⟩⟩).text else target
    match sources with
    | [source] => one c options c.start source (goal source)
    | sources =>
      if isDirectory then
        sources.reverse.foldl (fun e source => one c options e source (goal source)) c.start
      else
        let error := match c.tree.find c.dir ⟨target⟩ with
          | .ok _ => .notADirectory
          | .error e => e
        c.fails ("target '" ++ target ++ "': " ++ reason error)

/-- Moves files. -/
def move : Tool := withOptions ['f', 'i', 'n', 'T', 'u', 'v'] (transfer moveOne)

/-- Whether a path is one that must not be removed. -/
def isRefused (path : String) : Bool :=
  match (Path.steps ⟨path⟩).getLast? with
  | some .here => true
  | some .up => true
  | _ => false

/-- Removes files, or with an option directories. -/
def remove : Tool := withOptions ['d', 'f', 'i', 'I', 'r', 'R', 'v'] fun c =>
  let force := c.options.contains 'f'
  let deep := c.options.contains 'r' || c.options.contains 'R'
  if c.operands.isEmpty then (if force then c.start else c.misused "missing operand")
  else c.operands.foldl (fun e path =>
    let failing (r : String) := e.complain c ("cannot remove '" ++ path ++ "': " ++ r)
    match e.tree.destination c.dir .entry ⟨path⟩ (Path.lookupSteps ⟨path⟩) with
    | .ok (.found location node) =>
      let isEmpty := !e.tree.entries.any fun entry =>
        location.isPrefixOf entry.1 && entry.1 ≠ location
      if node.isDirectory && !deep && !c.options.contains 'd' then failing (reason .isADirectory)
      else if node.isDirectory && isRefused path then
        e.complain c ("refusing to remove '.' or '..' directory: skipping '" ++ path ++ "'")
      else if node.isDirectory && !deep && !isEmpty then failing "Directory not empty"
      else { e with tree := e.tree.erase location }
    | .ok (.vacant _) => if force then e else failing (reason .notFound)
    | .error error =>
      if force && (error = .notFound || error = .notADirectory) then e else failing (reason error))
    c.start

/-- Removes empty directories. -/
def removeDirectory : Tool := withOptions ['p', 'v'] fun c =>
  if c.operands.isEmpty then c.misused "missing operand"
  else c.operands.foldl (fun e path =>
    let failing (r : String) := e.complain c ("failed to remove '" ++ path ++ "': " ++ r)
    match e.tree.destination c.dir .entry ⟨path⟩ (Path.steps ⟨path⟩) with
    | .ok (.found location .directory) =>
      if e.tree.entries.any fun entry => location.isPrefixOf entry.1 && entry.1 ≠ location then
        failing "Directory not empty"
      else { e with tree := e.tree.erase location }
    | .ok (.found _ _) => failing (reason .notADirectory)
    | .ok (.vacant _) => failing (reason .notFound)
    | .error error => failing (reason error)) c.start

/-- Makes empty files where none are. -/
def touch : Tool := withOptions ['a', 'c', 'm', 'h', 'f'] fun c =>
  if c.operands.isEmpty then c.misused "missing file operand"
  else c.operands.foldl (fun e path =>
    if e.tree.exists? c.dir ⟨path⟩ || c.options.contains 'c' then e
    else match e.tree.writeFile c.dir ⟨path⟩ (.text "") with
      | .ok t => { e with tree := t }
      | .error error => e.complain c ("cannot touch '" ++ path ++ "': " ++ reason error)) c.start

/-- Makes directories, with an option also those above them. -/
def makeDirectory : Tool := withOptions ['p', 'v', 'm'] fun c =>
  if c.operands.isEmpty then c.misused "missing operand"
  else c.operands.foldl (fun e path =>
    let (tree, made) : FileTree.Attempt :=
      if c.options.contains 'p' then e.tree.makeDirectories c.dir ⟨path⟩
      else match e.tree.makeDirectory c.dir ⟨path⟩ with
        | .ok tree => (tree, .ok ())
        | .error error => (e.tree, .error error)
    match made with
    | .ok () => { e with tree := tree }
    | .error error =>
      { e with tree := tree }.complain c
        ("cannot create directory '" ++ path ++ "': " ++ reason error)) c.start

/-- Makes a link to a path; one that is not symbolic is a second file with the same
content. -/
def link : Tool := withOptions ['f', 's', 'n', 'v', 'T', 'r'] fun c =>
  match c.operands with
  | [] => c.misused "missing file operand"
  | source :: rest =>
    let goal := rest.head?.getD (lastName ⟨source⟩)
    let goal :=
      if (c.tree.directory? c.dir ⟨goal⟩).isSome then (Path.join ⟨goal⟩ ⟨lastName ⟨source⟩⟩).text
      else goal
    let symbolic := c.options.contains 's'
    let kind := if symbolic then "symbolic link" else "hard link"
    let node : Except IoError Node :=
      if symbolic then .ok (.link source) else (c.tree.find c.dir ⟨source⟩).map Prod.snd
    match node, c.tree.destination c.dir .entry ⟨goal⟩ (Path.lookupSteps ⟨goal⟩) with
    | .error error, _ => c.fails ("failed to access '" ++ source ++ "': " ++ reason error)
    | .ok .directory, _ => c.fails (source ++ ": hard link not allowed for directory")
    | .ok node, .ok (.vacant place) => { c.start with tree := c.tree.insert place node }
    | .ok node, .ok (.found place _) =>
      if c.options.contains 'f' then { c.start with tree := c.tree.insert place node }
      else c.fails ("failed to create " ++ kind ++ " '" ++ goal ++ "': File exists")
    | .ok _, .error error =>
      c.fails ("failed to create " ++ kind ++ " '" ++ goal ++ "': " ++ reason error)

/-- Writes where a link leads. -/
def readLink : Tool := fun c =>
  c.operands.foldl (fun e path =>
    match e.tree.destination c.dir .entry ⟨path⟩ (Path.lookupSteps ⟨path⟩) with
    | .ok (.found _ (.link target)) => e.put (Text.toOctets (target ++ "\n"))
    | _ => { e with status := 1 }) c.start

/-- Changes nothing about files, which must be there. -/
def changeMode : Tool := fun c =>
  (c.operands.drop 1).foldl (fun e path =>
    match e.tree.find c.dir ⟨path⟩ with
    | .ok _ => e
    | .error error => e.complain c ("cannot access '" ++ path ++ "': " ++ reason error)) c.start

/-- The programs that change files, by name. -/
def files : List (String × Tool) :=
  [ ("cp", copy), ("mv", move), ("rm", remove), ("rmdir", removeDirectory), ("touch", touch),
    ("mkdir", makeDirectory), ("ln", link), ("readlink", readLink), ("chmod", changeMode) ]

end ModuleBundler.Shell.Tool
