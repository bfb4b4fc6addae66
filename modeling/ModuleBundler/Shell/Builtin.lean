/-
# ModuleBundler.Shell.Builtin -- the commands that a shell does itself

Commands that change the shell they are run in, or are done by it because they are
used so often. Each is given its arguments, and gives a status. Those that run other
commands stand in `ModuleBundler.Shell.Execution`.
-/

import ModuleBundler.Shell.Child
import ModuleBundler.Shell.Condition
import ModuleBundler.Shell.Format
import ModuleBundler.Shell.Program
import ModuleBundler.Shell.Redirect

namespace ModuleBundler.Shell

/-- A command that a shell does itself. -/
abbrev Builtin := List String → Run Nat

namespace Builtin

open Run

/-! ## Arguments -/

/-- The whole number that an argument writes. -/
def number (text : String) : Run Nat :=
  match text.toList with
  | [] => fail "Illegal number: "
  | chars =>
    if chars.all Char.isDigit then return text.toNat?.getD 0
    else fail ("Illegal number: " ++ text)

/-- The options in front of the arguments, of which some take values, and the arguments.
Only known options are taken. -/
def optionsTaking (known taking : List Char) : List String → Run (List Char × List String) :=
  fun arguments => more arguments none
where
  /-- Reads on; `lacking` is an option whose value is the next argument. -/
  more : List String → Option Char → Run (List Char × List String)
    | [], none => return ([], [])
    | [], some o => fail ("No arg for -" ++ o.toString ++ " option")
    | _ :: rest, some _ => more rest none
    | "--" :: rest, none => return ([], rest)
    | first :: rest, none =>
      match first.toList with
      | '-' :: c :: letters => do
        let letters := c :: letters
        let plain := letters.takeWhile fun o => known.contains o
        match letters.drop plain.length with
        | [] => do
          let (behind, rest) ← more rest none
          return (plain ++ behind, rest)
        | o :: value =>
          if taking.contains o then do
            let (behind, rest) ← more rest (if value.isEmpty then some o else none)
            return (plain ++ o :: behind, rest)
          else fail ("Illegal option -" ++ Text.ofOctets ((Text.octetsOf o).take 1))
      | _ => return ([], first :: rest)

/-- The letters of the options in front of the arguments, and the arguments. Only
known options are taken. -/
def options (known : List Char) : List String → Run (List Char × List String) :=
  optionsTaking known []

/-- Writes text to the output; a failure is reported. -/
def put (text : String) : Run Nat := do
  if ← print 1 text then return 0
  else do
    let name := (← process).builtin.getD ""
    complain (name ++ ": I/O error")
    return 1

/-- Writes bytes to the output; a failure is reported. -/
def putBytes (bytes : Bytes) : Run Nat := do
  if bytes.isEmpty then return 0
  else if ← write 1 bytes then return 0
  else put ""

/-- A text as it is written to be read again: in single quotes, and single quotes in
double ones. The number bounds the characters. -/
def quotedFrom : Nat → List Char → List Char
  | 0, _ => []
  | n + 1, text =>
    let plain := text.takeWhile (· ≠ '\'')
    let behind := text.drop plain.length
    let quotes := behind.takeWhile (· = '\'')
    let rest := behind.drop quotes.length
    let front := ['\''] ++ plain ++ ['\'']
    if quotes = [] then front
    else front ++ ['"'] ++ quotes ++ ['"'] ++ if rest = [] then [] else quotedFrom n rest

/-- A text as it is written to be read again. -/
def quoted (text : String) : String :=
  String.ofList (quotedFrom (text.length + 1) text.toList)

/-! ## Output and conditions -/

/-- Does nothing. -/
def nothing (status : Nat) : Builtin := fun _ => return status

/-- Writes its arguments on a line. -/
def echo : Builtin := fun arguments => putBytes (Format.echoed arguments)

/-- What is wrong with an argument of a format, in words. -/
def complaintMessage : Format.Complaint → String
  | .noNumber text => text ++ ": expected numeric value"
  | .textBehind text => text ++ ": not completely converted"
  | .outOfRange text => text ++ ": Numerical result out of range"

/-- What is wrong with a format, in words. -/
def formatMessage : Format.Fault → String
  | .invalid directive => directive ++ ": invalid directive"
  | .unfinished _ => "missing format character"

/-- Writes a format with its arguments put in. -/
def printFormat : Builtin := fun arguments => do
  let (_, arguments) ← options [] arguments
  match arguments with
  | [] => fail "usage: printf format [arg ...]"
  | format :: rest => do
    let done := Format.filled .double format rest
    done.complaints.forM fun complaint => complain (complaintMessage complaint)
    let status ← putBytes done.output
    match done.fault with
    | some fault => fail (formatMessage fault)
    | none => return if done.complaints.isEmpty then status else 1

/-- Ends well if the condition in its arguments holds. -/
def test : Builtin := fun arguments => do
  let m ← get
  match Condition.holds ⟨m.shared.tree, m.process.dir⟩ (arguments.length + 1) arguments with
  | .ok holds => return if holds then 0 else 1
  | .error message => fail message

/-- `test` with a bracket behind its arguments. -/
def bracket : Builtin := fun arguments =>
  if arguments.getLast? = some "]" then test arguments.dropLast else fail "missing ]"

/-! ## Directories -/

/-- The names of an absolute path, without `.` and with `..` taken back. -/
def plainNames (path : String) : List (List Char) :=
  (Text.splitOn '/' path.toList).foldl (fun names name =>
    if name = [] || name = ['.'] then names
    else if name = ['.', '.'] then names.dropLast
    else names ++ [name]) []

/-- The directories in which a path is looked for that does not say where it begins; the
empty one is that of the shell. -/
def searchedDirectories (goal : String) : Run (List String) := do
  let isSearched := match goal.toList with
    | '/' :: _ => false
    | ['.'] => false
    | '.' :: '/' :: _ => false
    | ['.', '.'] => false
    | '.' :: '.' :: '/' :: _ => false
    | _ => true
  match ← value? "CDPATH" with
  | some path => return if isSearched then path.splitOn ":" else []
  | none => return []

/-- Makes a directory the one that the shell works in. -/
def changeDirectory : Builtin := fun arguments => do
  let (letters, arguments) ← options ['L', 'P'] arguments
  let m ← get
  let home := (← value? "HOME").getD ""
  let old := (← value? "OLDPWD").getD ""
  let isBack := arguments.head? = some "-"
  let goal := if isBack then old else arguments.headD home
  let goal := if goal = "" then "." else goal
  let isDirectory (path : String) : Bool :=
    (m.shared.tree.directory? m.process.dir ⟨path⟩).isSome
  let inDirectory (directory : String) : String :=
    if directory = "" then goal else directory ++ "/" ++ goal
  let directory? := (← searchedDirectories goal).find? fun directory =>
    isDirectory (inDirectory directory)
  let goal_ := (directory?.map inDirectory).getD goal
  let absolute := if goal_.startsWith "/" then goal_ else m.process.path ++ "/" ++ goal_
  let logical := "/" ++ "/".intercalate ((plainNames absolute).map String.ofList)
  let isPhysical := letters.getLast? = some 'P'
  match m.shared.tree.directory? m.process.dir ⟨if isPhysical then goal_ else logical⟩ with
  | none => fail ("can't cd to " ++ goal)
  | some dir => do
    let path := if isPhysical then (FileTree.pathOf dir).text else logical
    change fun p => { p with dir := dir, path := path }
    adjust "OLDPWD" fun v => { v with value := some m.process.path }
    adjust "PWD" fun v => { v with value := some path }
    if isBack || directory?.any (· ≠ "") then put (path ++ "\n") else return 0

/-- Writes the directory that the shell works in. -/
def workingDirectory : Builtin := fun arguments => do
  let (letters, _) ← options ['L', 'P'] arguments
  let p ← process
  put ((if letters.getLast? = some 'P' then (FileTree.pathOf p.dir).text else p.path) ++ "\n")

/-! ## Variables -/

/-- The name and the value of an argument that sets a variable, or the name alone. -/
def setting (argument : String) : Run (String × Option String) :=
  match setting? argument.toList with
  | some (name, value) => return (name, some (String.ofList value))
  | none =>
    if isName argument.toList then return (argument, none)
    else
      let name := (argument.splitOn "=").headD ""
      fail (name ++ ": bad variable name")

/-- Marks variables, and sets them where a value is given. -/
def mark (word : String) (isMarked : Variable → Bool) (f : Variable → Variable) : Builtin :=
  fun arguments => do
    let lists := arguments.head?.any (·.startsWith "-p")
    let (_, arguments) ← if lists then pure ([], []) else options ['p'] arguments
    if arguments.isEmpty then do
      let marked := (← process).store.filter isMarked
      let lines := (marked.map fun v =>
        word ++ " " ++ v.name ++ match v.value with
          | some value => "=" ++ quoted value
          | none => "").mergeSort (· ≤ ·)
      put (String.join (lines.map (· ++ "\n")))
    else do
      arguments.forM fun argument => do
        let (name, value) ← setting argument
        match value with
        | some text => assign name text
        | none => pure ()
        adjust name f
      return 0

/-- Hands variables on to programs. -/
def export_ : Builtin := mark "export" Variable.exported fun v => { v with exported := true }

/-- Lets variables keep their values. -/
def readOnly : Builtin := mark "readonly" Variable.readOnly fun v => { v with readOnly := true }

/-- Makes variables a function's own. -/
def local_ : Builtin := fun arguments => do
  match (← process).locals with
  | [] => fail "not in a function"
  | _ => do
    let keep (isSame : Kept → Bool) (kept : Kept) : Run Unit := change fun p =>
      { p with locals := match p.locals with
        | own :: rest => (if own.any isSame then own else kept :: own) :: rest
        | [] => [] }
    arguments.forM fun argument => do
      if argument = "-" then keep Kept.isOptions (.options (← process).options)
      else
        let (name, value) ← setting argument
        keep (Kept.isOf name) (.variable name (← lookup? name))
        match value with
        | some text => assign name text
        | none => pure ()
    return 0

/-- Takes away variables or functions. -/
def unset : Builtin := fun arguments => do
  let (letters, arguments) ← options ['f', 'v'] arguments
  arguments.forM fun name => do
    if letters.getLast? = some 'f' then
      change fun p => { p with functions := p.functions.filter fun f => f.name != name }
    else if (← lookup? name).any Variable.readOnly then fail (name ++ ": is read only")
    else if !isName name.toList then fail (name ++ ": bad variable name")
    else if name = "OPTIND" then fail "Illegal number: "
    else replaceVariable name none
  return 0

/-- Takes away arguments from the front. -/
def shift : Builtin := fun arguments => do
  let n ← match arguments with
    | [] => pure 1
    | text :: _ => number text
  if (← process).arguments.length < n then fail "can't shift that many"
  else do
    change fun p => { p with arguments := p.arguments.drop n, scan := {} }
    return 0

/-- Does what an argument asks for. Jobs cannot be controlled, for want of a terminal. -/
def applyChange : OptionSetting.Change → Run Unit
  | .turn option on =>
    if option = 'm' && on then complain "can't access tty; job control turned off"
    else change fun p =>
      let others := p.options.filter (· != option)
      { p with options := if on then others ++ [option] else others }
  | .list asCommands => do
    let _ ← put (OptionSetting.listing asCommands (← process).options)
  | .takeScript => return

/-- Sets options and arguments, or writes the variables. -/
def set_ : Builtin := fun arguments => do
  if arguments.isEmpty then
    let lines := ((← process).store.filterMap fun v =>
      v.value.map fun value => v.name ++ "=" ++ quoted value).mergeSort (· ≤ ·)
    put (String.join (lines.map (· ++ "\n")))
  else do
    let r := OptionSetting.read false arguments
    r.changes.forM applyChange
    match r.fault with
    | some text => fail ("Illegal option " ++ text)
    | none => do
      if r.replaces || !r.rest.isEmpty then
        change fun p => { p with arguments := r.rest, scan := {} }
      return 0

/-! ## Reading -/

/-- Takes a line from the front of bytes: its bytes, each with whether it was quoted,
how many were taken, and whether the line came to its end. The number bounds the
bytes. -/
def lineOf (raw : Bool) : Nat → Bytes → List (UInt8 × Bool) × Nat × Bool
  | 0, _ => ([], 0, false)
  | _ + 1, [] => ([], 0, false)
  | n + 1, b :: rest =>
    let behind (front : List (UInt8 × Bool)) (count : Nat) (rest : Bytes) :=
      let (line, taken, ended) := lineOf raw n rest
      (front ++ line, taken + count, ended)
    if b = 0x0A then ([], 1, true)
    else if b = 0x5C && !raw then
      match rest with
      | [] => ([], 1, false)
      | c :: rest => behind (if c = 0x0A then [] else [(c, true)]) 2 rest
    else behind (if b = 0 then [] else [(b, false)]) 1 rest

/-- The text of bytes that are each quoted or not, as pieces of a word. -/
def piecesOfLine (line : List (UInt8 × Bool)) : List Piece :=
  let runs := line.splitBy fun a b => a.2 == b.2
  runs.flatMap fun run =>
    let quoted := run.head?.any Prod.snd
    (Text.ofOctets (run.map Prod.fst)).toList.map fun c => Piece.char c quoted !quoted

/-- The character of a piece. -/
def charOf? : Piece → Option Char
  | .char c _ _ => some c
  | _ => none

/-- Whether a piece separates fields. -/
def separates (separators : List Char) : Piece → Bool
  | .char c _ splits => splits && separators.contains c
  | _ => false

/-- Whether a piece is a blank that separates fields. -/
def isBlankPiece (separators : List Char) (piece : Piece) : Bool :=
  separates separators piece && (charOf? piece).any [' ', '\t', '\n'].contains

/-- The texts for so many variables: fields, and the rest of the line for the last
one. -/
def valuesOf (separators : List Char) : Nat → List Piece → List String
  | 0, _ => []
  | 1, pieces =>
    let trimmed := (pieces.dropWhile (isBlankPiece separators)).reverse.dropWhile
      (isBlankPiece separators) |>.reverse
    let alone := (trimmed.filter (separates separators)).length = 1 &&
      trimmed.getLast?.any fun p => separates separators p && !isBlankPiece separators p
    [String.ofList ((if alone then trimmed.dropLast else trimmed).filterMap charOf?)]
  | n + 2, pieces =>
    let pieces := pieces.dropWhile (isBlankPiece separators)
    let field := pieces.takeWhile (!separates separators ·)
    let behind := (pieces.drop field.length).dropWhile (isBlankPiece separators)
    let behind := match behind with
      | p :: rest =>
        if separates separators p then rest.dropWhile (isBlankPiece separators) else behind
      | [] => []
    String.ofList (field.filterMap charOf?) :: valuesOf separators (n + 1) behind

/-- Reads a line into variables. -/
def read : Builtin := fun arguments => do
  let (letters, names) ← optionsTaking ['r'] ['p'] arguments
  let raw := letters.contains 'r'
  if names.isEmpty then fail "arg count"
  else match names.find? fun name => !isName name.toList with
  | some name => fail (name ++ ": bad variable name")
  | none => do
    let bytes ← left 0
    let (line, taken, ended) := lineOf raw (bytes.length + 1) bytes
    pass 0 taken
    let values := valuesOf (← separators) names.length (piecesOfLine line)
    (names.zip values).forM fun entry => assign entry.1 entry.2
    return if ended then 0 else 1

/-! ## Leaving -/

/-- How many loops are meant. -/
def loopCount (arguments : List String) : Run Nat := do
  match arguments with
  | [] => return 1
  | text :: _ => do
    let n ← number text
    if n = 0 then fail ("Illegal number: " ++ text) else return n

/-- Leaves loops. -/
def leave : Builtin := fun arguments => do
  let n := min (← loopCount arguments) (← process).loops
  if n = 0 then return 0 else throw (.leave n)

/-- Goes on with a loop. -/
def goOn : Builtin := fun arguments => do
  let n := min (← loopCount arguments) (← process).loops
  if n = 0 then return 0 else throw (.goOn n)

/-- The status that an argument names, or else the last one. -/
def statusOf (arguments : List String) : Run Nat := do
  match arguments with
  | [] => return (← process).lastStatus
  | text :: _ => number text

/-- Returns from a function. -/
def return_ : Builtin := fun arguments => do throw (.returned (← statusOf arguments))

/-- Ends the shell. -/
def exit : Builtin := fun arguments => do throw (.exited ((← statusOf arguments) % 256))

/-! ## Signals -/

/-- The job of a name; there has to be one. -/
def jobNamed (name : String) : Run Job := do
  match (← process).jobs.ofName name with
  | .ok job => return job
  | .error fault => fail fault.message

/-- Sends a signal to a process. No job is a group of processes that could be reached. -/
def send (s : Signal) (target : String) : Run Bool := do
  let missing : Run Bool := do
    complain "No such process\n"
    return false
  match target.toList.head? with
  | some '-' => return true
  | some '%' => do
    let _ ← jobNamed target
    missing
  | _ => do
    let n ← number target
    let p ← process
    let queue : Run Bool := do
      changeShared fun shared => { shared with sent := shared.sent ++ [(n, s)] }
      return true
    if n = p.number then
      match p.response s with
      | .nothing => return true
      | .action _ => queue
      | .death => throw (.ended (.signal s))
    else if (← get).shared.alive.contains n then queue
    else if n ≤ 1 then return true
    else missing

/-- The usage of `kill`. -/
def killUsage : String :=
  "Usage: kill [-s sigspec | -signum | -sigspec] [pid | job]... or\nkill -l [exitstatus]"

/-- Writes the names of signals. -/
def listSignals : Builtin := fun arguments => do
  match arguments with
  | [] => put (String.join ("0\n" :: (List.range (Signal.count - 1)).map fun n =>
      Signal.listedName ⟨n + 1⟩ ++ "\n"))
  | text :: _ => do
    let n ← number text
    let n := if 128 < n then n - 128 else n
    if 0 < n && n < Signal.count then put (Signal.listedName ⟨n⟩ ++ "\n")
    else fail ("invalid signal number or exit status: " ++ text)

/-- Sends a signal to processes. -/
def kill : Builtin := fun arguments => do
  let sendAll (s : Signal) (targets : List String) : Run Nat := do
    let targets := if targets.head? = some "--" then targets.drop 1 else targets
    if targets.isEmpty then fail killUsage
    else do
      let sent ← targets.mapM (send s)
      return if sent.all id then 0 else 1
  match arguments with
  | [] => fail killUsage
  | first :: rest =>
    match first.toList with
    | '-' :: name =>
      match Signal.ofText? (String.ofList name), name with
      | some s, _ => sendAll s rest
      | none, ['-'] => sendAll ⟨15⟩ rest
      | none, ['l'] => listSignals rest
      | none, 's' :: name =>
        let (name, rest) := if name = [] then (rest.head?.getD "", rest.drop 1)
          else (String.ofList name, rest)
        match Signal.ofText? name with
        | some s => sendAll s rest
        | none => fail ("invalid signal number or name: " ++ name)
      | none, c :: _ => fail ("Illegal option -" ++ c.toString)
      | none, [] => sendAll ⟨15⟩ arguments
    | _ => sendAll ⟨15⟩ arguments

/-- The number of a trap: 0 for the end of the shell, or else that of a signal. -/
def trapNumber? (text : String) : Option Nat :=
  if text.toUpper = "EXIT" then some 0 else (Signal.ofText? text).map Signal.number

/-- Says what is to be done on signals, or at the end. -/
def trap : Builtin := fun arguments => do
  let (_, arguments) ← options [] arguments
  match arguments with
  | [] =>
    let entries := (← process).traps.mergeSort fun a b => a.1 ≤ b.1
    put (String.join (entries.map fun entry =>
      "trap -- " ++ quoted entry.2 ++ " " ++
        (if entry.1 = 0 then "EXIT" else Signal.listedName ⟨entry.1⟩) ++ "\n"))
  | first :: rest => do
    let isReset := rest.isEmpty || first = "-" || (first ≠ "" && first.toList.all Char.isDigit)
    let names := if rest.isEmpty || (isReset && first ≠ "-") then first :: rest else rest
    match names.find? fun name => (trapNumber? name).isNone with
    | some name => do
      let _ ← print 2 ("trap: " ++ name ++ ": bad trap\n")
      return 1
    | none => do
      (names.filterMap trapNumber?).forM fun n => change fun p =>
        let others := p.traps.filter fun entry => entry.1 != n
        { p with traps := if isReset then others else others ++ [(n, first)] }
      return 0

/-- Waits for jobs: all of them, or those named. -/
def wait : Builtin := fun arguments => do
  let (_, arguments) ← options [] arguments
  match arguments with
  | [] => do
    learnEnds []
    change fun p => { p with jobs := p.jobs.waited fun _ => true }
    return 0
  | arguments => do
    let statuses ← arguments.mapM fun text => do
      let job? ← if text.startsWith "%" then do pure (some (← jobNamed text))
        else do
          let n ← number text
          pure ((← process).jobs.find? fun job => job.number == n)
      match job? with
      | none => return 127
      | some job => do
        if !job.isDone then
          learnEnds []
          sayEnds (job.processes.map Prod.snd)
        change fun p => { p with jobs := p.jobs.waited fun other => other.place == job.place }
        return job.status.number
    return statuses.getLastD 0

/-- Writes the list of jobs, or the entries of those named. One that is done is not
listed again. -/
def listJobs : Builtin := fun arguments => do
  let (letters, names) ← options ['l', 'p'] arguments
  let show_ (job : Job) : Run Unit := do
    let jobs := (← process).jobs
    if letters.getLast? = some 'p' then
      let _ ← print 1 (Nat.repr (job.processes.headD (0, .code 0)).1 ++ "\n")
    else
      let _ ← print 1 (job.entry (jobs.mark job) (letters.contains 'l'))
      if job.isDone then
        change fun p => { p with jobs := p.jobs.filter fun other => other.place != job.place }
  if names.isEmpty then (← process).jobs.forM show_
  else names.forM fun name => do show_ (← jobNamed name)
  return 0

/-- Writes or sets the mask of new files. -/
def mask : Builtin := fun arguments => do
  let (letters, arguments) ← options ['S'] arguments
  let before := (← process).mask
  match arguments with
  | [] => put ((if letters.isEmpty then before.text else before.symbolicText) ++ "\n")
  | text :: _ =>
    let after ←
      if text.toList.head?.any Char.isDigit then
        match Mask.ofOctal? text with
        | some after => pure after
        | none => fail ("Illegal number: " ++ text)
      else match before.ofChanges? text with
        | some after => pure after
        | none => fail ("Illegal mode: " ++ text)
    change fun p => { p with mask := after }
    return 0

/-- Writes the limits of a shell, which are not known but for those that are none. -/
def limits : Builtin := fun arguments => do
  let known := ['H', 'S', 'a', 't', 'f', 'd', 's', 'c', 'm', 'l', 'p', 'n', 'v', 'w', 'r']
  let (letters, arguments) ← options known arguments
  let kind := (letters.filter fun c => c ≠ 'H' && c ≠ 'S').getLastD 'f'
  if arguments.isEmpty && ['t', 'f', 'd', 'm', 'v', 'w'].contains kind then put "unlimited\n"
  else return 0

/-- Brings a job to the front, or lets it go on; none was started to be brought there. -/
def control : Builtin := fun arguments => do
  let (_, names) ← options [] arguments
  let _ ← jobNamed (names.headD "%")
  fail ("job " ++ names.headD "(null)" ++ " not created under job control")

/-- Writes the times that the shell and its programs have run, which are short. -/
def times : Builtin := fun _ =>
  let line := "0m0.000000s 0m0.000000s\n"
  put (line ++ line)

/-! ## Words that stand for texts -/

/-- The list in which a name is kept, of a number of lists. -/
def listed (lists : Nat) (name : String) : Nat :=
  let bytes := (Text.toOctets name).map UInt8.toNat
  bytes.foldl (· + ·) ((bytes.headD 0) * 16) % lists

/-- A word and the text it stands for, as they are written to be read again. -/
def aliasText (entry : String × String) : String :=
  entry.1 ++ "=" ++ quoted entry.2

/-- Lets words stand for texts, or writes what they stand for. -/
def alias_ : Builtin := fun arguments => do
  if arguments.isEmpty then
    let sorted := (← process).aliases.mergeSort fun a b => listed 39 a.1 ≤ listed 39 b.1
    put (String.join (sorted.map fun entry => aliasText entry ++ "\n"))
  else do
    let statuses ← arguments.mapM fun argument => do
      let chars := argument.toList
      let name := chars.take 1 ++ (chars.drop 1).takeWhile (· ≠ '=')
      let entry := (String.ofList name, String.ofList (chars.drop (name.length + 1)))
      if name.length < chars.length then do
        change fun p =>
          if p.aliases.any fun other => other.1 == entry.1 then
            { p with aliases := p.aliases.map fun other =>
                if other.1 = entry.1 then entry else other }
          else { p with aliases := p.aliases ++ [entry] }
        return 0
      else match (← process).aliases.find? fun other => other.1 == argument with
        | some entry => put (aliasText entry ++ "\n")
        | none => do
          let _ ← print 2 ("alias: " ++ argument ++ " not found\n")
          return 1
    return statuses.foldl max 0

/-- Takes words back that stand for texts. -/
def unalias : Builtin := fun arguments => do
  let (letters, names) ← options ['a'] arguments
  if !letters.isEmpty then do
    change fun p => { p with aliases := [] }
    return 0
  else do
    let statuses ← names.mapM fun name => do
      if (← process).aliases.any fun entry => entry.1 == name then do
        change fun p => { p with aliases := p.aliases.filter fun entry => entry.1 != name }
        return 0
      else do
        let _ ← print 2 ("unalias: " ++ name ++ " not found\n")
        return 1
    return statuses.foldl max 0

/-! ## The options of a script -/

/-- Reads the next option of the script, or of arguments. -/
def nextOption : Builtin := fun arguments => do
  match arguments with
  | letters :: name :: given => do
    let p ← process
    let given := if given.isEmpty then p.arguments else given
    let start : ScanPlace := if given.length + 1 < p.scan.index then {} else p.scan
    let (result, place) := start.next letters.toList given
    let isQuiet := letters.startsWith ":"
    let about (c : Char) (message : String) : Run Unit := do
      if isQuiet then assign "OPTARG" c.toString
      else do
        let _ ← print 2 (message ++ "\n")
        replaceVariable "OPTARG" none
    let found : Char ←
      match result with
      | .option c value => do
        assign "OPTARG" value
        pure c
      | .unknown c => do
        about c ("Illegal option -" ++ c.toString)
        pure '?'
      | .lacking c => do
        about c ("No arg for -" ++ c.toString ++ " option")
        pure (if isQuiet then ':' else '?')
      | .ended => pure '?'
    assign "OPTIND" (Nat.repr place.index)
    if !isName name.toList then fail (name ++ ": bad variable name")
    assign name found.toString
    change fun p => { p with scan := place }
    return if result = .ended then 1 else 0
  | _ => fail "Usage: getopts optstring var [arg...]"

/-! ## All of them -/

/-- The builtins whose failure ends a script, by name. -/
def special : List (String × Builtin) :=
  [ (":", nothing 0), ("break", leave), ("continue", goOn), ("exit", exit), ("export", export_),
    ("local", local_), ("readonly", readOnly), ("return", return_), ("set", set_), ("shift", shift),
    ("times", times), ("trap", trap), ("unset", unset) ]

/-- The other builtins, by name. -/
def regular : List (String × Builtin) :=
  [ ("true", nothing 0), ("false", nothing 1), ("echo", echo), ("printf", printFormat),
    ("test", test), ("[", bracket), ("cd", changeDirectory), ("chdir", changeDirectory),
    ("pwd", workingDirectory), ("read", read), ("kill", kill), ("wait", wait),
    ("umask", mask), ("ulimit", limits), ("alias", alias_), ("unalias", unalias),
    ("getopts", nextOption), ("jobs", listJobs), ("fg", control), ("bg", control) ]

/-- The builtins that run other commands. -/
def running : List String := [".", "eval", "exec", "command", "type", "hash"]

/-- Whether a name is that of a builtin. -/
def isBuiltin (name : String) : Bool :=
  running.contains name || (special ++ regular).any fun entry => entry.1 == name

end Builtin

end ModuleBundler.Shell
