/-
# ModuleBundler.Shell.Process -- the state of a shell, and of what it shares

A shell has variables, arguments, functions, options and traps of its own. The file
tree is shared with all shells and programs, and so are the things that were opened:
a descriptor of a shell is a number of one of these, with one place in it for
reading and writing, however many descriptors lead there. Processes have numbers, by
which signals reach them: a signal waits until its process goes on.

`Run` is a step of a shell that may be interrupted.
-/

import ModuleBundler.FileTree.Edit
import ModuleBundler.Shell.Arithmetic
import ModuleBundler.Shell.Job
import ModuleBundler.Shell.Mask
import ModuleBundler.Shell.OptionScan
import ModuleBundler.Shell.Signal
import ModuleBundler.Text.Octets

namespace ModuleBundler.Shell

/-- The bytes that programs read and write. -/
abbrev Bytes := List UInt8

/-! ## What is shared -/

/-- What was opened. -/
inductive Medium where
  /-- Takes everything, and holds nothing. -/
  | nowhere
  /-- What was written and not yet read. -/
  | channel (held : Bytes)
  | file (location : Location)
  | directory
  deriving DecidableEq, Repr

/-- Something opened, and the place in it. -/
structure Opened where
  medium : Medium
  position : Nat := 0
  /-- Whether everything is written at the end. -/
  appends : Bool := false
  deriving DecidableEq, Repr

/-- What all shells share. -/
structure Shared where
  tree : FileTree
  opened : List Opened := []
  /-- The number of the process that was started last. -/
  started : Nat
  /-- The numbers of the processes that can be reached by signals. -/
  alive : List Nat
  /-- The signals that were sent and not yet answered, and to which process. -/
  sent : List (Nat × Signal) := []

namespace Shared

/-- The bytes of a file, if there is one. -/
def bytesAt (s : Shared) (location : Location) : Bytes :=
  match s.tree.lookup location with
  | some (.file content) => content.toBytes
  | _ => []

/-- Opens something, and gives its number. -/
def open_ (s : Shared) (o : Opened) : Shared × Nat :=
  ({ s with opened := s.opened ++ [o] }, s.opened.length)

/-- Writes bytes. -/
def write (s : Shared) (number : Nat) (bytes : Bytes) : Shared :=
  match s.opened[number]? with
  | none => s
  | some o =>
    match o.medium with
    | .channel held =>
      { s with opened := s.opened.set number { o with medium := .channel (held ++ bytes) } }
    | .file location =>
      match s.tree.lookup location with
      | some (.file content) =>
        let before := content.toBytes
        let place := if o.appends then before.length else o.position
        let gap := List.replicate (place - before.length) (0 : UInt8)
        let after := before.take place ++ gap ++ bytes ++ before.drop (place + bytes.length)
        { s with
          tree := s.tree.insert location (.file (.ofBytes after))
          opened := s.opened.set number { o with position := place + bytes.length } }
      | _ => s
    | _ => s

/-- The file that something opened leads to, and the place where it is read or written. -/
def place? (s : Shared) (o : Opened) : Option (Location × Nat) :=
  match o.medium with
  | .file location => some (location, if o.appends then (s.bytesAt location).length else o.position)
  | _ => none

/-- The bytes that are left to be read. -/
def left (s : Shared) (number : Nat) : Bytes :=
  match s.opened[number]? with
  | none => []
  | some o =>
    match o.medium with
    | .channel held => held.drop o.position
    | .file location => (s.bytesAt location).drop o.position
    | _ => []

/-- Moves on over bytes that were read. -/
def pass (s : Shared) (number count : Nat) : Shared :=
  match s.opened[number]? with
  | none => s
  | some o => { s with opened := s.opened.set number { o with position := o.position + count } }

end Shared

/-! ## A shell -/

/-- A variable of a shell. -/
structure Variable where
  name : String
  value : Option String
  exported : Bool := false
  readOnly : Bool := false
  deriving DecidableEq, Repr

/-- A function of a shell, with the texts of its redirections. -/
structure Function where
  name : String
  body : Command
  documents : List (Nat × Word)

/-- What a function made its own, as it was before. -/
inductive Kept where
  | variable (name : String) (before : Option Variable)
  | options (before : List Char)
  deriving DecidableEq, Repr

/-- Whether what is kept is that of a variable. -/
def Kept.isOf (name : String) : Kept → Bool
  | .variable other _ => other == name
  | .options _ => false

/-- Whether what is kept are the options. -/
def Kept.isOptions : Kept → Bool
  | .variable _ _ => false
  | .options _ => true

/-- A shell. -/
structure Process where
  /-- The name under which it was started. -/
  name : String
  arguments : List String := []
  dir : Location
  /-- The path by which it came to its directory. -/
  path : String
  /-- The variables. -/
  store : List Variable := []
  functions : List Function := []
  /-- The words that stand for texts where a command may begin. -/
  aliases : List (String × String) := []
  /-- The names of the programs that were found by the search path. -/
  found : List String := []
  /-- How far the options of the script were read. -/
  scan : ScanPlace := {}
  mask : Mask := {}
  /-- What the descriptors lead to. -/
  descriptors : List (Nat × Nat) := []
  options : List Char := []
  lastStatus : Nat := 0
  /-- The status of the last script in a word. -/
  wordStatus : Nat := 0
  /-- The commands that were not waited for. -/
  jobs : Jobs := []
  /-- The number of the last of them. -/
  lastJob : Option Nat := none
  /-- How many loops are around the command at hand, in its function. -/
  loops : Nat := 0
  /-- What the functions at hand made their own. -/
  locals : List (List Kept) := []
  line : Nat := 1
  /-- The builtin that runs. -/
  builtin : Option String := none
  /-- What is to be done on a signal; 0 stands for the end of the shell. -/
  traps : List (Nat × String) := []
  /-- The numbers of the signals that it was started to ignore. -/
  ignored : List Nat := []
  number : Nat
  /-- The number of the shell that it is a part of, which may be itself. -/
  main : Nat
  /-- The number of the process that started it. -/
  parent : Nat

/-- What a process does on a signal. -/
inductive Response where
  | nothing
  /-- Runs what a trap says. -/
  | action (script : String)
  | death
  deriving DecidableEq, Repr

/-- What a shell does on a signal. -/
def Process.response (p : Process) (s : Signal) : Response :=
  if s.number = 9 then .death
  else if s.number = 0 || p.ignored.contains s.number then .nothing
  else match p.traps.find? fun trap => trap.1 == s.number with
    | some (_, "") => .nothing
    | some (_, script) => .action script
    | none => if s.ends then .death else .nothing

/-- The numbers of the signals that what it starts is to ignore. -/
def Process.ignoredByAll (p : Process) : List Nat :=
  p.ignored ++ (p.traps.filter fun trap => trap.2 == "" && trap.1 != 0).map Prod.fst

/-- Whether it has something to do on a signal or at its end. -/
def Process.hasTraps (p : Process) : Bool :=
  p.traps.any fun trap => trap.2 != ""

/-- The state of a step. -/
structure Machine where
  shared : Shared
  process : Process

/-- Why a step does not go on. -/
inductive Interrupt where
  /-- Loops are left. -/
  | leave (loops : Nat)
  /-- The loops within one are left, and that one goes on. -/
  | goOn (loops : Nat)
  | returned (status : Nat)
  | exited (status : Nat)
  /-- The process ended without its shell: by a signal, or as the program that took
  its place did. -/
  | ended (how : ExitStatus)
  /-- A builtin or an expansion failed. -/
  | failed (status : Nat)
  deriving DecidableEq, Repr

/-- A step of a shell. -/
abbrev Run := ExceptT Interrupt (StateM Machine)

namespace Run

/-- The shell. -/
def process : Run Process := return (← get).process

/-- Changes the shell. -/
def change (f : Process → Process) : Run Unit :=
  modify fun m => { m with process := f m.process }

/-- Changes what is shared. -/
def changeShared (f : Shared → Shared) : Run Unit :=
  modify fun m => { m with shared := f m.shared }

/-! ## Descriptors -/

/-- What a descriptor leads to. -/
def opened? (descriptor : Nat) : Run (Option Nat) := do
  return ((← process).descriptors.find? fun entry => entry.1 == descriptor).map Prod.snd

/-- Lets a descriptor lead to something, or to nothing. -/
def bind_ (descriptor : Nat) (number : Option Nat) : Run Unit :=
  change fun p =>
    let others := p.descriptors.filter fun entry => entry.1 != descriptor
    { p with descriptors := match number with
        | some n => (descriptor, n) :: others
        | none => others }

/-- Writes bytes to a descriptor, if it leads anywhere. -/
def write (descriptor : Nat) (bytes : Bytes) : Run Bool := do
  match ← opened? descriptor with
  | none => return false
  | some number => do
    changeShared (·.write number bytes)
    return true

/-- Writes text to a descriptor. -/
def print (descriptor : Nat) (text : String) : Run Bool :=
  write descriptor (Text.toOctets text)

/-- The bytes that are left to be read from a descriptor. -/
def left (descriptor : Nat) : Run Bytes := do
  match ← opened? descriptor with
  | none => return []
  | some number => return (← get).shared.left number

/-- Moves on in a descriptor over bytes that were read. -/
def pass (descriptor count : Nat) : Run Unit := do
  match ← opened? descriptor with
  | none => return
  | some number => changeShared (·.pass number count)

/-! ## Messages -/

/-- Writes a message with the name of the shell, the line, and the builtin that
runs. -/
def complain (message : String) : Run Unit := do
  let p ← process
  let builtin := match p.builtin with
    | some name => name ++ ": "
    | none => ""
  let _ ← print 2 (p.name ++ ": " ++ Nat.repr p.line ++ ": " ++ builtin ++ message ++ "\n")

/-- Fails with a message. -/
def fail {α : Type} (message : String) (status : Nat := 2) : Run α := do
  complain message
  throw (.failed status)

/-! ## Variables -/

/-- The search path of a shell that was given none. -/
def defaultPath : String := "/usr/local/sbin:/usr/local/bin:/usr/sbin:/usr/bin:/sbin:/bin"

/-- The variable of a name. -/
def lookup? (name : String) : Run (Option Variable) := do
  return (← process).store.find? fun v => v.name == name

/-- The value of a variable. -/
def value? (name : String) : Run (Option String) := do
  return (← lookup? name).bind Variable.value

/-- Puts a variable in place of the one of its name, or takes it away. With another
search path, programs have to be found again; and `OPTIND` says where options are read. -/
def replaceVariable (name : String) (v : Option Variable) : Run Unit :=
  let place : ScanPlace := { index := max 1 (((v.bind Variable.value).bind String.toNat?).getD 1) }
  change fun p =>
    { p with
      store := p.store.filter (fun w => w.name != name) ++ v.toList
      found := if name = "PATH" then [] else p.found
      scan := if name = "OPTIND" then place else p.scan }

/-- Sets a variable to what a function makes of it. -/
def adjust (name : String) (f : Variable → Variable) : Run Unit := do
  replaceVariable name (some (f ((← lookup? name).getD ⟨name, none, false, false⟩)))

/-- Takes back what was kept. -/
def takeBack : Kept → Run Unit
  | .variable name before => replaceVariable name before
  | .options before => change fun p => { p with options := before }

/-- Whether an option is on. -/
def has (option : Char) : Run Bool :=
  return (← process).options.contains option

/-- Sets a variable, unless it may only be read. -/
def assign (name value : String) : Run Unit := do
  if (← lookup? name).any Variable.readOnly then fail (name ++ ": is read only")
  else if name = "OPTIND" && !value.toList.all Char.isDigit then fail ("Illegal number: " ++ value)
  else do
    let exporting ← has 'a'
    adjust name fun v => { v with value := some value, exported := v.exported || exporting }

/-- The variables that programs are given. -/
def environment : Run (List (String × String)) := do
  return (← process).store.filterMap fun v =>
    if v.exported then v.value.map fun value => (v.name, value) else none

end Run

end ModuleBundler.Shell
