/-
# ModuleBundler.Shell.Redirect -- where the descriptors of a command lead

The words of redirections are put in before anything is opened, those in the texts
that they ask for when it is their turn; then the descriptors are bound one after the
other, so that a later one may lead where an earlier one was led. Behind the command
they lead again where they did before.
-/

import ModuleBundler.Shell.Field

namespace ModuleBundler.Shell

/-- What a descriptor is bound to, with the words put in. -/
inductive Target where
  | input (path : String)
  | output (path : String) (anyway : Bool)
  | append (path : String)
  | inputOutput (path : String)
  /-- Another descriptor, or none. -/
  | descriptor (other : Option Nat)
  | document (text : Word)

namespace Run

/-- The words of a redirection, put in. -/
def targetOf (capture : Capture) (documents : List (Nat × Word)) : Binding → Run Target
  | .input file => return .input (← textOf capture file)
  | .output file anyway => return .output (← textOf capture file) anyway
  | .append file => return .append (← textOf capture file)
  | .inputOutput file => return .inputOutput (← textOf capture file)
  | .descriptor number => do
    match (← textOf capture number).toList with
    | ['-'] => return .descriptor none
    | [c] =>
      if c.isDigit then return .descriptor (some (c.toNat - '0'.toNat))
      else fail "Syntax error: Bad fd number"
    | _ => fail "Syntax error: Bad fd number"
  | .document number =>
    return .document (((documents.find? fun entry => entry.1 == number).map Prod.snd).getD [])

/-- The descriptor that a path stands for. -/
def standard? (path : String) : Option Nat :=
  match path with
  | "/dev/stdin" => some 0
  | "/dev/stdout" => some 1
  | "/dev/stderr" => some 2
  | "/dev/fd/0" => some 0
  | "/dev/fd/1" => some 1
  | "/dev/fd/2" => some 2
  | _ => none

/-- Why a file cannot be opened. -/
def refusal (missing : String) : IoError → String
  | .notFound => missing
  | .notADirectory => missing
  | .isADirectory => "Is a directory"
  | .alreadyExists => "File exists"
  | .invalidFilename => "File name too long"
  | .filesystemLoop => "Too many levels of symbolic links"
  | e => e.message

/-- Opens something that all shells can see. -/
def opening (o : Opened) : Run (Option Nat) := do
  let (shared, number) := (← get).shared.open_ o
  changeShared fun _ => shared
  return some number

/-- Opens the file at a path to write to it; it is emptied if asked for. -/
def openToWrite (path : String) (empties appends : Bool) : Run (Option Nat) := do
  let m ← get
  match m.shared.tree.fileLocation m.process.dir ⟨path⟩ with
  | .error e => fail ("cannot create " ++ path ++ ": " ++ refusal "Directory nonexistent" e)
  | .ok location => do
    let before := m.shared.tree.lookup location
    if empties || before.isNone then
      changeShared fun s => { s with tree := s.tree.insert location (.file (.text "")) }
    opening { medium := .file location, appends := appends }

/-- Opens what a target names. -/
def openTarget (capture : Capture) (t : Target) : Run (Option Nat) := do
  let path := match t with
    | .input path => path
    | .output path _ => path
    | .append path => path
    | .inputOutput path => path
    | _ => ""
  if path = "/dev/null" then opening { medium := .nowhere }
  else match standard? path with
  | some descriptor => opened? descriptor
  | none =>
    match t with
    | .input path => do
      let m ← get
      match m.shared.tree.find m.process.dir ⟨path⟩ with
      | .ok (location, .file _) => opening { medium := .file location }
      | .ok _ => opening { medium := .directory }
      | .error e => fail ("cannot open " ++ path ++ ": " ++ refusal "No such file" e)
    | .output path anyway => do
      let m ← get
      if !anyway && (← has 'C') && m.shared.tree.isFile m.process.dir ⟨path⟩ then
        fail ("cannot create " ++ path ++ ": File exists")
      else openToWrite path true false
    | .append path => openToWrite path false true
    | .inputOutput path => openToWrite path false false
    | .descriptor none => return none
    | .descriptor (some other) => do
      match ← opened? other with
      | some number => return some number
      | none => fail (Nat.repr other ++ ": Bad file descriptor")
    | .document word => do
      let pieces ← piecesOf capture wordDepth false word
      let text := Glyph.textOf (Piece.glyphs (← joint) pieces)
      opening { medium := .channel (Text.toOctets text) }

/-- Binds descriptors to targets, in order. -/
def redirect (capture : Capture) (targets : List (Nat × Target)) : Run Unit :=
  targets.forM fun entry => do bind_ entry.1 (← openTarget capture entry.2)

/-- The words of redirections, put in. -/
def targetsOf (capture : Capture) (documents : List (Nat × Word)) (rs : List Redirection) :
    Run (List (Nat × Target)) :=
  rs.mapM fun r => do
    match r with
    | .mk descriptor binding => return (descriptor, ← targetOf capture documents binding)

/-- Lets descriptors lead where they did. -/
def restore (targets : List (Nat × Target)) (before : List (Nat × Nat)) : Run Unit :=
  targets.forM fun entry =>
    bind_ entry.1 ((before.find? fun old => old.1 == entry.1).map Prod.snd)

/-- Runs a step with descriptors bound to targets. If one cannot be opened, `refused`
is run in its place. -/
def withTargets (capture : Capture) (targets : List (Nat × Target)) (refused step : Run Nat) :
    Run Nat := do
  let before := (← process).descriptors
  let bound ← tryCatch (do redirect capture targets; return true) fun i =>
    match i with
    | .failed _ => return false
    | i => throw i
  if bound then
    let status ← tryCatch step fun i => do
      restore targets before
      throw i
    restore targets before
    return status
  else
    restore targets before
    refused

end Run

end ModuleBundler.Shell
