/-
# ModuleBundler.Shell.Tool.Copy -- copying files

A copy goes from a path to another one, with everything below a directory if that is
asked for. What stands at the goal already is written over, kept, moved to a backup or
removed first, as the options say; a file is never copied onto itself. In place of
copies, links may be made.

A copy that fails is reported, and the others go on.
-/

import ModuleBundler.Shell.Tool.Basic
import ModuleBundler.Shell.Tool.Quoting
import ModuleBundler.Shell.Tool.Switch

namespace ModuleBundler.Shell.Tool

/-! ## What is asked for -/

/-- Which links are followed to what they lead to. -/
inductive Following where
  | never
  /-- Those that are named as arguments. -/
  | named
  | always
  deriving DecidableEq, Repr

/-- How backups are named. -/
inductive BackupKind where
  | simple
  | numbered
  /-- By numbers where such backups are there already. -/
  | existing
  deriving DecidableEq, Repr

/-- What is done about a file that is there already. -/
inductive Meeting where
  | overwrite
  | ask
  | keep
  /-- Keeps it, and fails. -/
  | refuse
  deriving DecidableEq, Repr

/-- How files are copied. -/
structure CopyOptions where
  recursive : Bool := false
  following : Following := .always
  hardLinks : Bool := false
  symbolicLinks : Bool := false
  /-- Whether a file that cannot be written is removed. -/
  force : Bool := false
  /-- Whether a file that is there is removed first. -/
  removesFirst : Bool := false
  meeting : Meeting := .overwrite
  /-- Whether only files that are missing or older are written. -/
  onlyNewer : Bool := false
  backup : Option BackupKind := none
  suffix : String := "~"
  verbose : Bool := false
  withoutContent : Bool := false
  parents : Bool := false
  trimsSlashes : Bool := false
  /-- The directory that copies are made in. -/
  target : Option String := none
  /-- Whether the last argument is the goal itself, and no directory to copy into. -/
  isSingle : Bool := false

/-! ## The state of copying -/

/-- An entry of a directory, as it is compared: where the directory stands, and the name. -/
abbrev Entry := Option Location × String

/-- How far copying has come. -/
structure CopyState where
  effect : Effect
  /-- What is left of the input, which answers questions. -/
  answers : Bytes := []
  /-- The files that were copied as arguments: the entries that they name, and where they
  lead to. -/
  sources : List (Entry × Location) := []
  /-- The files that were made for arguments, by name and location. -/
  made : List (String × Location) := []
  /-- Directories that were copied or made, with the goals that they belong to. -/
  copied : List (Location × Entry × String) := []
  /-- Whether a directory was made for the argument at hand, above what is copied. -/
  madeDirectory : Bool := false
  /-- Whether the argument at hand was found to be copied into itself. -/
  intoItself : Bool := false

/-- A step of copying. -/
abbrev Copier := StateM CopyState

namespace Copier

/-- The tree at hand. -/
def tree : Copier FileTree := return (← get).effect.tree

/-- Changes the tree. -/
def change (t : FileTree) : Copier Unit :=
  modify fun s => { s with effect := { s.effect with tree := t } }

/-- Writes a line to the output. -/
def say (line : String) : Copier Unit :=
  modify fun s => { s with effect := s.effect.put (Text.toOctets (line ++ "\n")) }

/-- Reports what went wrong. -/
def complain (c : Call) (message : String) : Copier Unit :=
  modify fun s => { s with effect := s.effect.complain c message }

/-- Reports something that is no failure. -/
def remark (c : Call) (message : String) : Copier Unit :=
  modify fun s => { s with effect := { s.effect.complain c message with status := s.effect.status } }

/-- Fails without a word. -/
def fail : Copier Unit :=
  modify fun s => { s with effect := { s.effect with status := 1 } }

/-- Asks a question, which the next line of the input answers. -/
def ask (question : String) : Copier Bool := do
  let s ← get
  let line := s.answers.takeWhile (· ≠ 0x0A)
  set { s with
    answers := s.answers.drop (line.length + 1)
    effect := { s.effect with
      written := s.effect.written ++ [(true, Text.toOctets question)]
      readsInput := true } }
  return line.head?.any fun b => b = 0x79 || b = 0x59

end Copier

/-! ## Names -/

/-- A path without the slashes behind its last name. -/
def withoutSlashes (path : String) : String :=
  match path.toList.reverse.dropWhile (· == '/') with
  | [] => if path = "" then "" else "/"
  | kept => String.ofList kept.reverse

/-- The last name of a path, with the slashes behind it. -/
def lastPart (path : String) : String :=
  let trimmed := (withoutSlashes path).toList
  String.ofList ((trimmed.reverse.takeWhile (· ≠ '/')).reverse)

/-- A name below a path. -/
def below (path name : String) : String :=
  if path = "" || path.toList.getLast? = some '/' then path ++ name else path ++ "/" ++ name

/-- The directory part of a path. -/
def frontPart (path : String) : String :=
  let trimmed := (withoutSlashes path).toList.reverse.dropWhile (· ≠ '/')
  match trimmed.dropWhile (· == '/') with
  | [] => if trimmed.isEmpty then "." else "/"
  | kept => String.ofList kept.reverse

/-! ## Looking at files -/

/-- What stands at a path; a link there is followed or not. The standard input is a
file that holds what can be read. -/
def standing (c : Call) (t : FileTree) (follow : Bool) (path : String) :
    Except IoError (Location × Node) :=
  if path = "/dev/null" then .ok (["dev", "null"], .file (.text ""))
  else if path = "/dev/stdin" then
    .ok (["dev", "stdin"], .file (.ofBytes (c.input.toOption.getD [])))
  else if path = "/dev/stdout" then .ok (["dev", "stdout"], .file (.text ""))
  else match t.destination c.dir (if follow then .look else .entry) ⟨path⟩ (Path.lookupSteps ⟨path⟩) with
    | .ok (.found location node) => .ok (location, node)
    | .ok (.vacant _) => .error .notFound
    | .error e => .error e

/-- Whether a node is a link. -/
def isLink : Node → Bool
  | .link _ => true
  | _ => false

/-- The entry that a path names. Its directory may be a link itself, which is not followed
unless `follows` says so. -/
def entryOf (c : Call) (t : FileTree) (follows : Bool) (path : String) : Entry :=
  ((standing c t follows (frontPart path)).toOption.map Prod.fst, withoutSlashes (lastPart path))

/-- What copying a file onto another one comes to, if they may be the same. -/
inductive Sameness where
  | different
  /-- They are the same, and nothing is left to be done. -/
  | settled
  | same
  deriving DecidableEq, Repr

/-- Compares a source with what is there at its goal; `entry` tells whether they are the
same entry. -/
def sameness (o : CopyOptions) (c : Call) (t : FileTree) (source goal : String) (entry : Bool)
    (s d : Location × Node) : Sameness :=
  let same := s.1 == d.1
  /- Decides, given what stands at both paths itself. -/
  let compared (s d : Location × Node) : Sameness :=
    if o.backup.isSome then
      if s.1 = d.1 then (if entry then .same else .different)
      else if o.following ≠ .never && isLink s.2 && !isLink d.2 then .same else .different
    else if o.removesFirst && isLink d.2 then .different
    else if !isLink s.2 && !isLink d.2 && s.1 ≠ d.1 then .different
    else if !isLink s.2 && !isLink d.2 && o.hardLinks then .settled
    else if o.symbolicLinks && isLink d.2 then .different
    else if o.following = .never then
      match standing c t true source, standing c t true goal with
      | .ok (x, _), .ok (y, _) =>
        if x ≠ y then .different
        else if o.hardLinks then (if isLink d.2 then .different else .settled)
        else .same
      | _, _ => .different
    else .same
  if same && o.hardLinks then .settled
  else if o.following = .never then
    if isLink s.2 && isLink d.2 then
      if entry then .same else if o.backup.isSome || !same then .different else .settled
    else compared s d
  else if !same then .different
  else match standing c t false source, standing c t false goal with
    | .ok s, .ok d =>
      if isLink s.2 && isLink d.2 && o.removesFirst then .different else compared s d
    | _, _ => .different

/-- The number of a backup of a name, if an entry is one. -/
def backupNumber? (name entry : String) : Option Nat :=
  let front := (name ++ ".~").toList
  if front.isPrefixOf entry.toList && entry.endsWith "~" then
    let digits := (entry.toList.drop front.length).dropLast
    if digits.isEmpty || !digits.all Char.isDigit || digits.head? = some '0' then none
    else (String.ofList digits).toNat?
  else none

/-- The path of the backup of what stands at a path. -/
def backupPath (o : CopyOptions) (c : Call) (t : FileTree) (kind : BackupKind) (path : String) :
    String :=
  let directory := (t.directory? c.dir ⟨frontPart path⟩).getD c.dir
  let numbers := t.entries.filterMap fun entry =>
    if entry.1.dropLast = directory then entry.1.getLast?.bind (backupNumber? (lastPart path)) else none
  let last := numbers.foldl max 0
  if kind = .simple || kind = .existing && last = 0 then withoutSlashes path ++ o.suffix
  else withoutSlashes path ++ ".~" ++ Nat.repr (last + 1) ++ "~"

/-! ## One copy -/

/-- What is known of the goal of a copy. -/
inductive Absence where
  | unknown
  /-- No directory could be opened there. -/
  | likely
  | certain
  deriving DecidableEq, Repr

/-- A copy that is to be made. -/
structure Errand where
  source : String
  goal : String
  /-- The argument that the copy belongs to, and where that goes. -/
  top : String × String
  isNamed : Bool
  /-- Whether the goal is directly in the directory that copies are made in. -/
  isInTarget : Bool := false
  absence : Absence
  /-- The directories that the copy is in. -/
  around : List Location := []

namespace Errand

/-- The entry that the source names. -/
def sourceEntry (k : Errand) (c : Call) (t : FileTree) : Entry := entryOf c t false k.source

/-- The entry that the goal names. -/
def goalEntry (k : Errand) (c : Call) (t : FileTree) : Entry := entryOf c t k.isInTarget k.goal

/-- The copy of an entry of a directory that is copied itself. -/
def inside (k : Errand) (isNew : Bool) (directory : Location) (name : String) : Errand :=
  { k with
    source := below k.source name
    goal := below k.goal name
    isNamed := false
    isInTarget := false
    absence := if isNew then .certain else .unknown
    around := directory :: k.around }

end Errand

namespace Copier

/-- Takes away what stands at a path. -/
def unlink (c : Call) (path : String) : Copier Unit := do
  let t ← tree
  match standing c t false path with
  | .ok (location, _) => change (t.erase location)
  | .error _ => return

/-- Puts a node at a path where nothing is. -/
def create (c : Call) (path : String) (node : Node) : Copier (Except IoError Unit) := do
  let t ← tree
  match t.destination c.dir .entry ⟨path⟩ (Path.lookupSteps ⟨path⟩) with
  | .ok (.vacant place) =>
    if Path.endsInSlash ⟨path⟩ then return .error .notADirectory
    else do
      change (t.insert place node)
      return .ok ()
  | .ok (.found _ _) => return .error .alreadyExists
  | .error e => return .error (if e = .isADirectory then .notADirectory else e)

/-- Puts a link at a path. What is there already is in its way, unless it may be
replaced; then a path with a slash at its end would have to be a directory. -/
def createLink (c : Call) (replaces : Bool) (path : String) (node : Node) :
    Copier (Except IoError Unit) := do
  let hasSlash := Path.endsInSlash ⟨path⟩
  match standing c (← tree) false (withoutSlashes path) with
  | .ok (location, _) =>
    if !replaces then return .error .alreadyExists
    else if hasSlash then return .error .notADirectory
    else do
      change ((← tree).erase location)
      create c path node
  | .error e =>
    if hasSlash then return .error e
    else create c path node

/-- Copies the content of a file to a path. Gives whether that went well. -/
def writeContent (o : CopyOptions) (c : Call) (isNew : Bool) (goal : String) (content : Content) :
    Copier Bool := do
  let t ← tree
  let refuse (e : IoError) : Copier Bool := do
    complain c ("cannot create regular file " ++ quoted goal ++ ": " ++ reason e)
    return false
  let fresh : Copier Bool := do
    match standing c (← tree) false goal with
    | .ok (_, .link _) => do
      complain c ("not writing through dangling symlink " ++ quoted goal)
      return false
    | _ =>
      match ← create c goal (.file (if o.withoutContent then .text "" else content)) with
      | .ok () => return true
      | .error .notFound =>
        refuse (if Path.endsInSlash ⟨goal⟩ then .notADirectory else .notFound)
      | .error e => refuse e
  if goal = "/dev/null" then return true
  else if goal = "/dev/stdout" then do
    modify fun s => { s with effect := s.effect.put content.toBytes }
    return true
  else if isNew then fresh
  else match t.fileLocation c.dir ⟨goal⟩ with
    | .ok place => do
      if !o.withoutContent then change (t.insert place (.file content))
      return true
    | .error e => do
      if o.force then do
        unlink c goal
        if o.verbose then say ("removed " ++ quoted goal)
        fresh
      else refuse e

/-- Makes a link to a path. Gives whether that went well. -/
def makeLink (o : CopyOptions) (c : Call) (source goal : String) : Copier Bool := do
  let here := match (← tree).directory? c.dir ⟨frontPart goal⟩ with
    | some directory => directory == c.dir
    | none => true
  if !source.startsWith "/" && !here then do
    complain c (quotedIfNeeded goal ++ ": can make relative symbolic links only in current directory")
    return false
  else do
    match ← createLink c o.force goal (.link source) with
    | .ok () => return true
    | .error e => do
      complain c ("cannot create symbolic link " ++ quoted goal ++ " to " ++ quoted source ++ ": " ++
        reason e)
      return false

/-- Makes a second entry for a file. Gives whether that went well. -/
def makeTwin (o : CopyOptions) (c : Call) (follows : Bool) (source goal : String) : Copier Bool := do
  match standing c (← tree) follows source with
  | .error e => do
    complain c ("cannot create hard link " ++ quoted goal ++ " to " ++ quoted source ++ ": " ++ reason e)
    return false
  | .ok (_, node) =>
    match ← createLink c (o.force || o.meeting = .ask) goal node with
    | .ok () => return true
    | .error e => do
      complain c ("cannot create hard link " ++ quoted goal ++ " to " ++ quoted source ++ ": " ++ reason e)
      return false

/-- Copies a link itself. Gives whether that went well. -/
def copyLink (o : CopyOptions) (c : Call) (goal target : String) : Copier Bool := do
  match ← createLink c o.force goal (.link target) with
  | .ok () => return true
  | .error e => do
    if o.onlyNewer && (standing c (← tree) false goal).toOption.map Prod.snd = some (.link target) then
      return true
    else do
      complain c ("cannot create symbolic link " ++ quoted goal ++ ": " ++ reason e)
      return false

/-- What is to be done about a goal: nothing more, or the copy itself, to a goal that
is new or not, and with the path of the backup that was made. -/
abbrev Plan := Option (Bool × Option String)

/-- Whether the source of a copy is the simple backup of its goal. -/
def isOwnBackup (o : CopyOptions) (c : Call) (k : Errand) (t : FileTree) : Bool :=
  lastPart k.source = lastPart k.goal ++ o.suffix &&
    (standing c t false (withoutSlashes k.goal ++ o.suffix)).toOption.map Prod.fst =
      (standing c t false k.source).toOption.map Prod.fst

/-- Moves what stands at the goal of a copy to a backup. What was there as a backup before is
written over, but no directory, and not the source. -/
def backUp (o : CopyOptions) (c : Call) (k : Errand) (kind : BackupKind) : Copier Plan := do
  let t ← tree
  let path := backupPath o c t kind k.goal
  let refuse (e : IoError) : Copier Plan := do
    complain c ("cannot backup " ++ quoted k.goal ++ ": " ++ reason e)
    return none
  let moveTo (source target : Location) : Copier Plan := do
    change (t.move source target)
    return some (true, some path)
  if kind ≠ .numbered && isOwnBackup o c k t then do
    complain c ("backing up " ++ quoted k.goal ++ " might destroy source;  " ++ quoted k.source ++
      " not copied")
    return none
  else if Path.endsInSlash ⟨path⟩ then refuse .notADirectory
  else match standing c t false k.goal, t.destination c.dir .entry ⟨path⟩ (Path.steps ⟨path⟩) with
    | .ok (place, _), .ok (.vacant other) => moveTo place other
    | .ok (place, _), .ok (.found other held) =>
      if held.isDirectory then refuse .isADirectory else moveTo place other
    | _, _ => return some (true, none)

/-- Makes room for a copy where something stands at its goal. -/
def clear (o : CopyOptions) (c : Call) (k : Errand) (s d : Location × Node) : Copier Plan := do
  let t ← tree
  let refuse (message : String) : Copier Plan := do
    complain c message
    return none
  let isDirectory := s.2.isDirectory
  let mayReplace : Copier Bool :=
    if !isDirectory && o.meeting = .ask then ask (c.name ++ ": overwrite " ++ quoted k.goal ++ "? ")
    else return true
  let sameAs := if o.meeting = .keep || o.meeting = .refuse then .different
    else sameness o c t k.source k.goal (k.sourceEntry c t == k.goalEntry c t) s d
  if sameAs = .same then
    refuse (quoted k.source ++ " and " ++ quoted k.goal ++ " are the same file")
  else if o.onlyNewer && !isDirectory then return none
  else if !isDirectory && o.meeting = .keep then return none
  else if !isDirectory && o.meeting = .refuse then refuse ("not replacing " ++ quoted k.goal)
  else if !(← mayReplace) then do
    fail
    return none
  else if sameAs = .settled then return none
  else if !d.2.isDirectory && isDirectory then
    refuse ("cannot overwrite non-directory " ++ quoted k.goal ++ " with directory " ++ quoted k.source)
  else if !d.2.isDirectory && k.isNamed && o.backup ≠ some .numbered &&
      (← get).made.contains (k.goal, d.1) then
    refuse ("will not overwrite just-created " ++ quoted k.goal ++ " with " ++ quoted k.source)
  else if !isDirectory && d.2.isDirectory then
    refuse ("cannot overwrite directory " ++ quoted k.goal ++ " with non-directory")
  else match o.backup with
    | some kind =>
      if [".", ".."].contains (lastPart k.source) || d.2.isDirectory then return some (false, none)
      else backUp o c k kind
    | none =>
      if !d.2.isDirectory && (o.removesFirst || o.following = .never && !s.2.isFile) then do
        unlink c k.goal
        if o.verbose then say ("removed " ++ quoted k.goal)
        return some (true, none)
      else return some (false, none)

/-- Looks at the goal of a copy, and makes room for it. -/
def plan (o : CopyOptions) (c : Call) (k : Errand) (s : Location × Node) : Copier Plan := do
  let itself := !s.2.isFile || o.symbolicLinks || o.hardLinks || o.backup.isSome || o.removesFirst
  if k.absence = .certain || (!itself && k.absence = .likely) then return some (true, none)
  else match standing c (← tree) (!itself) (if k.goal = "" then "." else k.goal) with
    | .ok d => clear o c k s d
    | .error .notFound => return some (true, none)
    | .error e =>
      if e = .filesystemLoop && o.force then return some (false, none)
      else do
        complain c ("cannot stat " ++ quoted k.goal ++ ": " ++ reason e)
        return none

/-- Tells that a copy is made. -/
def announce (o : CopyOptions) (k : Errand) (backup : Option String) : Copier Unit := do
  if o.verbose then
    say (quoted k.source ++ " -> " ++ quoted k.goal ++
      ((backup.map fun path => " (backup: " ++ quoted path ++ ")").getD ""))

/-- Copies what is no directory. Gives whether that went well. -/
def copyLeaf (o : CopyOptions) (c : Call) (k : Errand) (isNew : Bool) (node : Node) :
    Copier Bool := do
  let follows := o.following = .always || o.following = .named && k.isNamed
  if o.symbolicLinks then makeLink o c k.source k.goal
  else if o.hardLinks then makeTwin o c follows k.source k.goal
  else match standing c (← tree) follows k.source, node with
    | .error e, .file _ => do
      complain c ("cannot open " ++ quoted k.source ++ " for reading: " ++ reason e)
      return false
    | .error e, .link _ => do
      complain c ("cannot read symbolic link " ++ quoted k.source ++ ": " ++ reason e)
      return false
    | _, .file content => writeContent o c isNew k.goal content
    | _, .link target => copyLink o c k.goal target
    | _, .directory => return true

/-- Remembers a directory that was copied, or made. -/
def remember (k : Errand) (c : Call) (l : Location) : Copier Unit :=
  modify fun s => { s with copied := (l, k.goalEntry c s.effect.tree, k.goal) :: s.copied }

/-- What keeps a directory from being copied, if it was met before: a message, and
whether that is a failure. -/
def metBefore (o : CopyOptions) (c : Call) (k : Errand) (l : Location) :
    Copier (Option (String × Bool)) := do
  let s ← get
  match s.copied.find? fun entry => entry.1 == l with
  | none => do
    if k.isNamed then remember k c l
    return none
  | some (_, entry, earlier) =>
    let t := s.effect.tree
    if k.sourceEntry c t = entry then do
      modify fun s => { s with intoItself := true }
      return some ("cannot copy a directory, " ++ quoted k.top.1 ++ ", into itself, " ++ quoted k.top.2,
        true)
    else if k.goalEntry c t = entry then
      return some ("warning: source directory " ++ quoted k.top.1 ++ " specified more than once", false)
    else if o.following = .always || o.following = .named && k.isNamed then return none
    else
      return some ("will not create hard link " ++ quoted k.goal ++ " to directory " ++ quoted earlier,
        true)

/-- Whether a file is named as an argument that was named before. -/
def isNamedAgain (o : CopyOptions) (c : Call) (k : Errand) (s : Location × Node) :
    Copier Bool := do
  let state ← get
  return k.isNamed && !s.2.isDirectory && o.backup.isNone &&
    state.sources.contains (k.sourceEntry c state.effect.tree, s.1)

/-- Whether the goal is a link that was made for an argument before. -/
def isThroughMade (o : CopyOptions) (c : Call) (k : Errand) : Copier Bool := do
  let state ← get
  return (standing c state.effect.tree false k.goal).toOption.any fun d =>
    isLink d.2 && k.isNamed && o.backup.isNone && state.made.contains (k.goal, d.1)

/-- Puts a backup back to the goal that it was made of. -/
def restoreBackup (o : CopyOptions) (c : Call) (goal path : String) : Copier Unit := do
  let t ← tree
  match standing c t false path, t.destination c.dir .entry ⟨goal⟩ (Path.steps ⟨goal⟩) with
  | .ok (saved, _), .ok (.vacant place) => do
    change (t.move saved place)
    if o.verbose then say (quoted path ++ " -> " ++ quoted goal ++ " (unbackup)")
  | _, _ => return

/-- Copies what is no directory, and remembers what was made for an argument. If that fails,
the backup is put back. -/
def copyFile (o : CopyOptions) (c : Call) (k : Errand) (isNew : Bool) (backup : Option String)
    (node : Node) : Copier Unit := do
  announce o k backup
  if ← copyLeaf o c k isNew node then
    match standing c (← tree) false k.goal with
    | .ok (l, _) => if k.isNamed then modify fun s => { s with made := (k.goal, l) :: s.made }
    | .error _ => return
  else match backup with
    | some path => restoreBackup o c k.goal path
    | none => return

/-- Makes the directory that another one is copied to; the first of an argument is
remembered. Gives whether that went well. -/
def makeGoal (o : CopyOptions) (c : Call) (k : Errand) : Copier Bool := do
  match (← tree).makeDirectory c.dir ⟨k.goal⟩ with
  | .ok t => do
    change t
    if !(← get).madeDirectory then
      match standing c t false (withoutSlashes k.goal) with
      | .ok (l, _) => do
        remember k c l
        modify fun s => { s with madeDirectory := true }
      | .error _ => pure ()
    announce o k none
    return true
  | .error e => do
    complain c ("cannot create directory " ++ quoted k.goal ++ ": " ++ reason e)
    return false

section Directory

-- Makes a copy of what is below.
variable (copy : CopyOptions → Errand → Copier Unit)

/-- Copies what is in a directory. Once that is found to be copied into itself, nothing more
is copied. -/
def copyEntries (o : CopyOptions) (k : Errand) (isNew : Bool) (directory : Location) :
    Copier Unit := do
  let names := (← tree).entries.filterMap fun entry =>
    if entry.1.dropLast = directory then entry.1.getLast? else none
  -- Only arguments are followed as such.
  let o := if o.following = .named then { o with following := .never } else o
  let above := (← get).madeDirectory
  let made ← names.mapM fun name => do
    modify fun s => { s with madeDirectory := above }
    if !(← get).intoItself then copy o (k.inside isNew directory name)
    return (← get).madeDirectory
  modify fun s => { s with madeDirectory := above || made.any id }

/-- Copies a directory, unless it was met before. -/
def copyDirectory (o : CopyOptions) (c : Call) (k : Errand) (isNew : Bool)
    (directory : Location) : Copier Unit := do
  match ← metBefore o c k directory with
  | some (message, isFailure) => if isFailure then complain c message else remark c message
  | none =>
    if k.around.contains directory then
      complain c ("cannot copy cyclic symbolic link " ++ quoted k.source)
    else do
      let isThere ← if isNew then makeGoal o c k else pure true
      if isThere then copyEntries copy o k isNew directory

end Directory

/-- Makes one copy, and those of everything below it. The number bounds the depth. -/
def copyPath (o : CopyOptions) (c : Call) : Nat → Errand → Copier Unit
  | 0, _ => fail
  | depth + 1, k => do
    match standing c (← tree) (o.following ≠ .never) k.source with
    | .error e => complain c ("cannot stat " ++ quoted k.source ++ ": " ++ reason e)
    | .ok s =>
      if s.2.isDirectory && !o.recursive then
        complain c ("-r not specified; omitting directory " ++ quoted k.source)
      else if ← isNamedAgain o c k s then
        remark c ("warning: source file " ++ quoted k.source ++ " specified more than once")
      else do
        if k.isNamed then
          modify fun state => { state with
            sources := (k.sourceEntry c state.effect.tree, s.1) :: state.sources }
        match ← plan o c k s with
        | none => return
        | some (isNew, backup) =>
          if ← isThroughMade o c k then
            complain c ("will not copy " ++ quoted k.source ++ " through just-created symlink " ++
              quoted k.goal)
          else if s.2.isDirectory then
            copyDirectory (fun o k => copyPath o c depth k) o c k isNew s.1
          else copyFile o c k isNew backup s.2

end Copier

/-! ## The program -/

/-- The options of copying. -/
def copySwitches : List Switch :=
  [ { key := "archive", letter := some 'a', word := some "archive" },
    { key := "attributes-only", word := some "attributes-only" },
    { key := "backup", letter := some 'b', word := some "backup", arity := .optional,
      letterTakes := false },
    { key := "copy-contents", word := some "copy-contents" },
    { key := "debug", word := some "debug" },
    { key := "dereference", letter := some 'L', word := some "dereference" },
    { key := "force", letter := some 'f', word := some "force" },
    { key := "interactive", letter := some 'i', word := some "interactive" },
    { key := "link", letter := some 'l', word := some "link" },
    { key := "no-clobber", letter := some 'n', word := some "no-clobber" },
    { key := "no-dereference", letter := some 'P', word := some "no-dereference" },
    { key := "no-preserve", word := some "no-preserve", arity := .required },
    { key := "no-target-directory", letter := some 'T', word := some "no-target-directory" },
    { key := "one-file-system", letter := some 'x', word := some "one-file-system" },
    { key := "parents", word := some "parents" },
    { key := "parents", word := some "path" },
    { key := "preserve", letter := some 'p' },
    { key := "preserve", word := some "preserve", arity := .optional },
    { key := "recursive", letter := some 'R', word := some "recursive" },
    { key := "recursive", letter := some 'r' },
    { key := "remove-destination", word := some "remove-destination" },
    { key := "sparse", word := some "sparse", arity := .required },
    { key := "reflink", word := some "reflink", arity := .optional },
    { key := "strip-trailing-slashes", word := some "strip-trailing-slashes" },
    { key := "suffix", letter := some 'S', word := some "suffix", arity := .required },
    { key := "symbolic-link", letter := some 's', word := some "symbolic-link" },
    { key := "target-directory", letter := some 't', word := some "target-directory",
      arity := .required },
    { key := "update", letter := some 'u', word := some "update", arity := .optional,
      letterTakes := false },
    { key := "verbose", letter := some 'v', word := some "verbose" },
    { key := "keep-directory-symlink", word := some "keep-directory-symlink" },
    { key := "no-links", letter := some 'd' },
    { key := "named-links", letter := some 'H' },
    { key := "context", letter := some 'Z' },
    { key := "context", word := some "context", arity := .optional },
    { key := "help", word := some "help" },
    { key := "version", word := some "version" } ]

/-- The choice that a value or its beginning stands for, of those by their words; or the
message that refuses it, which lists them as `listed`. -/
def chosen {α : Type} [DecidableEq α] (option : String) (choices : List (String × α))
    (listed : List String) (value : String) : Except String α :=
  let refused (what : String) : Except String α :=
    .error (what ++ " argument " ++ quoted value ++ " for " ++ quoted option ++
      "\nValid arguments are:" ++ String.join (listed.map ("\n  - " ++ ·)))
  match choices.find? fun entry => entry.1 == value with
  | some entry => .ok entry.2
  | none =>
    match choices.filter fun entry => entry.1.startsWith value with
    | [] => refused "invalid"
    | first :: rest =>
      if rest.all fun entry => entry.2 = first.2 then .ok first.2 else refused "ambiguous"

/-- The choice that a value stands for, of some words. -/
def chosenWord (option : String) (words : List String) (value : String) : Except String String :=
  chosen option (words.map fun word => (word, word)) (words.map fun word => "'" ++ word ++ "'") value

/-- How backups are named, by the words for it. -/
def backupKinds : List (String × Option BackupKind) :=
  [ ("none", none), ("off", none), ("simple", some .simple), ("never", some .simple),
    ("existing", some .existing), ("nil", some .existing), ("numbered", some .numbered),
    ("t", some .numbered) ]

/-- How files that are there are met, and whether only newer ones are written, by the
words for it. -/
def updates : List (String × (Meeting × Bool)) :=
  [ ("all", (.overwrite, false)), ("none", (.keep, false)), ("none-fail", (.refuse, false)),
    ("older", (.overwrite, true)) ]

/-- What of a file may be kept, by its words. -/
def preserved : List String :=
  ["mode", "timestamps", "ownership", "links", "context", "xattr", "all"]

/-- Why options are refused. -/
inductive CopyFault where
  /-- The help would tell more. -/
  | misuse (message : String)
  | manyTargets
  deriving DecidableEq, Repr

/-- Takes a value as one of some words, without a consequence. -/
def CopyOptions.checked (o : CopyOptions) (result : Except String String) :
    Except CopyFault CopyOptions :=
  match result with
  | .ok _ => .ok o
  | .error message => .error (.misuse message)

/-- Takes one option into account, or refuses its value. -/
def CopyOptions.take (o : CopyOptions) (option : String × Option String) :
    Except CopyFault CopyOptions :=
  match option with
  | ("archive", _) => .ok { o with recursive := true, following := .never }
  | ("attributes-only", _) => .ok { o with withoutContent := true }
  | ("dereference", _) => .ok { o with following := .always }
  | ("no-dereference", _) => .ok { o with following := .never }
  | ("no-links", _) => .ok { o with following := .never }
  | ("named-links", _) => .ok { o with following := .named }
  | ("force", _) => .ok { o with force := true }
  | ("interactive", _) => .ok { o with meeting := .ask }
  | ("no-clobber", _) => .ok { o with meeting := .keep }
  | ("link", _) => .ok { o with hardLinks := true }
  | ("parents", _) => .ok { o with parents := true }
  | ("recursive", _) => .ok { o with recursive := true }
  | ("remove-destination", _) => .ok { o with removesFirst := true }
  | ("strip-trailing-slashes", _) => .ok { o with trimsSlashes := true }
  | ("symbolic-link", _) => .ok { o with symbolicLinks := true }
  | ("target-directory", target) =>
    if o.target.isSome then .error .manyTargets else .ok { o with target := target }
  | ("no-target-directory", _) => .ok { o with isSingle := true }
  | ("update", none) => .ok { o with onlyNewer := true }
  | ("update", some value) =>
    match chosen "--update" updates ["'all'", "'none'", "'none-fail'", "'older'"] value with
    | .ok (meeting, onlyNewer) => .ok { o with meeting := meeting, onlyNewer := onlyNewer }
    | .error message => .error (.misuse message)
  | ("reflink", some value) => o.checked (chosenWord "--reflink" ["auto", "always", "never"] value)
  | ("sparse", some value) => o.checked (chosenWord "--sparse" ["never", "auto", "always"] value)
  | ("preserve", some value) => o.checked (all "--preserve" value)
  | ("no-preserve", some value) => o.checked (all "--no-preserve" value)
  | ("verbose", _) => .ok { o with verbose := true }
  | ("debug", _) => .ok { o with verbose := true }
  | _ => .ok o
where
  /-- Looks at every word of a list. -/
  all (option value : String) : Except String String := do
    let words := (Text.splitOn ',' value.toList).map String.ofList
    words.forM fun word => do
      let _ ← chosenWord option preserved word
    return value

/-- Sets the naming of backups, or refuses it. -/
def CopyOptions.withBackups (o : CopyOptions) (c : Call) (g : Given) :
    Except CopyFault CopyOptions := do
  let variable_ (name : String) : Option String :=
    (c.environment.find? fun entry => entry.1 == name).map Prod.snd
  let suffix := ((g.value? "suffix").or (variable_ "SIMPLE_BACKUP_SUFFIX")).getD "~"
  let name := withoutSlashes suffix
  let o := { o with suffix := if name = "" || name.contains '/' then "~" else suffix }
  if !g.has "backup" && !g.has "suffix" then return o
  else match (g.value? "backup").or (variable_ "VERSION_CONTROL") with
    | none => return { o with backup := some .existing }
    | some value =>
      let listed := ["'none', 'off'", "'simple', 'never'", "'existing', 'nil'", "'numbered', 't'"]
      match chosen "backup type" backupKinds listed value with
      | .ok kind => return { o with backup := kind }
      | .error message => .error (.misuse message)

/-- The options that arguments ask for, if they do not ask for help. -/
def CopyOptions.ofGiven (c : Call) (g : Given) : Except CopyFault (Option CopyOptions) := do
  let isHelp (entry : String × Option String) : Bool := entry.1 == "help" || entry.1 == "version"
  let chosen := ["archive", "dereference", "no-dereference", "no-links", "named-links"].any g.has
  let o ← (g.options.takeWhile (!isHelp ·)).foldlM CopyOptions.take ({} : CopyOptions)
  let makesBackups := g.has "backup" || g.has "suffix"
  if g.options.any isHelp then return none
  else match g.fault with
  | some fault => .error (.misuse fault.message)
  | none =>
    if o.hardLinks && o.symbolicLinks then
      .error (.misuse "cannot make both hard and symbolic links")
    else if makesBackups && (g.has "no-clobber" || o.meeting = .refuse) then
      .error (.misuse "options --backup and --no-clobber are mutually exclusive")
    else
      let following := if chosen then o.following
        else if o.recursive && !o.hardLinks then .never else .always
      some <$> ({ o with following := following } : CopyOptions).withBackups c g

/-- Makes the directories above a path below a directory, for a source that is copied
with its path: `goal` and `front` are what was come through of both. Gives what is known
of the goal, unless that went wrong. -/
def makeParents (o : CopyOptions) (c : Call) (goal front : String) (absence : Absence) :
    List String → Copier (Option Absence)
  | [] => return some absence
  | name :: rest => do
    let goal := below goal name
    let front := below front name
    match standing c (← Copier.tree) true goal with
    | .ok (_, .directory) => makeParents o c goal front .unknown rest
    | .ok _ => do
      Copier.complain c (quoted goal ++ " exists but is not a directory")
      return none
    | .error _ => do
      let problem : Option IoError := match standing c (← Copier.tree) true front with
        | .ok (_, .directory) => none
        | .ok _ => some .notADirectory
        | .error e => some e
      match problem, (← Copier.tree).makeDirectory c.dir ⟨goal⟩ with
      | some e, _ => do
        Copier.complain c ("failed to get attributes of " ++ quoted front ++ ": " ++ reason e)
        return none
      | none, .ok t => do
        Copier.change t
        if o.verbose then Copier.say (front ++ " -> " ++ goal)
        makeParents o c goal front .certain rest
      | none, .error e => do
        Copier.complain c ("cannot make directory " ++ quoted goal ++ ": " ++ reason e)
        return none

/-- Copies sources into a directory. -/
def copyInto (o : CopyOptions) (c : Call) (depth : Nat) (target : String) (sources : List String) :
    Copier Unit :=
  sources.forM fun given => do
    let source := if o.trimsSlashes then withoutSlashes given else given
    let name := if o.parents then withoutSlashes source
      else if lastPart source = ".." then "." else lastPart source
    let name := String.ofList (name.toList.dropWhile (· == '/'))
    let goal := below target name
    let names := ((Text.splitOn '/' (withoutSlashes source).toList).filter (· ≠ [])).map String.ofList
    let ready ← if o.parents then
        makeParents o c target (if source.startsWith "/" then "/" else "") .unknown names.dropLast
      else pure (some .unknown)
    match ready with
    | none => return
    | some absence => do
      modify fun s => { s with madeDirectory := false, intoItself := false }
      Copier.copyPath o c depth
        { source := source, goal := goal, top := (source, goal), isNamed := true
          isInTarget := frontPart name = ".", absence := absence }
      if sources.length < 2 then modify fun s => { s with sources := [], made := [] }

/-- Copies a source to a path. -/
def copyTo (o : CopyOptions) (c : Call) (depth : Nat) (absence : Absence) (source goal : String) :
    Copier Unit := do
  let isFile := (standing c (← Copier.tree) true goal).toOption.any fun d => d.2.isFile
  let (o, goal) := match o.backup with
    | some kind =>
      if o.force && source = goal && isFile then
        ({ o with backup := none }, backupPath o c c.tree kind goal)
      else (o, goal)
    | none => (o, goal)
  Copier.copyPath o c depth
    { source := source, goal := goal, top := (source, goal), isNamed := true, absence := absence }

/-- Copies files. -/
def copy : Tool := fun c =>
  let g := Switch.read copySwitches false c.arguments
  match CopyOptions.ofGiven c g with
  | .error (.misuse message) => c.misused message
  | .error .manyTargets => c.fails "multiple target directories specified"
  | .ok none => c.start
  | .ok (some o) =>
    let depth := c.tree.entries.length + 2
    let run (step : Copier Unit) : Effect :=
      (step.run { effect := c.start, answers := c.input.toOption.getD [] }).2.effect
    let directory (path : String) : Except IoError Unit :=
      match standing c c.tree true path with
      | .ok (_, .directory) => .ok ()
      | .ok _ => .error .notADirectory
      | .error e => .error e
    match o.target, g.operands with
    | some _, [] => c.misused "missing file operand"
    | some target, sources =>
      if o.isSingle then
        c.fails "cannot combine --target-directory (-t) and --no-target-directory (-T)"
      else match directory target with
        | .ok () => run (copyInto o c depth target sources)
        | .error e => c.fails ("target directory " ++ quoted target ++ ": " ++ reason e)
    | none, [] => c.misused "missing file operand"
    | none, [source] => c.misused ("missing destination file operand after " ++ quoted source)
    | none, operands =>
      let target := operands.getLastD ""
      let sources := operands.dropLast
      match if o.isSingle then .error IoError.invalidInput else directory target with
      | .ok () => run (copyInto o c depth target sources)
      | .error e =>
        match operands with
        | [source, goal] =>
          if o.parents then c.misused "with --parents, the destination must be a directory"
          else run (copyTo o c depth (if e = .notFound then .likely else .unknown) source goal)
        | _ =>
          if o.isSingle then c.misused ("extra operand " ++ quoted (operands.getD 2 ""))
          else c.fails ("target " ++ quoted target ++ ": " ++ reason e)

end ModuleBundler.Shell.Tool
