/-
# ModuleBundler.Shell.Run -- running commands

Running a command either fails to start, or gives a status, what was written, and the
tree it left. A shell runs a script: its commands are run by what they are made of,
programs in them by name, and shells that they start in the same way. The numbers in
this module bound how deep commands are nested and how often they are repeated.
-/

import ModuleBundler.Shell.Builtin
import ModuleBundler.Shell.Child
import ModuleBundler.Shell.Installation
import ModuleBundler.Shell.Script

namespace ModuleBundler.Shell

/-- What holds for a command where it stands. -/
structure Place where
  /-- Whether its status is asked for, so that a failure ends no script. -/
  tested : Bool := false
  /-- Whether the process ends behind it, so that a program takes its place. -/
  isFinal : Bool := false
  /-- The texts that redirections name there. -/
  documents : List (Nat × Word) := []

namespace Run

/-! ## Steps within others -/

/-- The status of a step, also of one that leaves the shell. -/
def settled (step : Run Nat) : Run Nat :=
  tryCatch step fun i =>
    match i with
    | .exited status => return status
    | .failed status => return status
    | .returned status => return status
    | .leave _ => return 0
    | .goOn _ => return 0
    | .ended how => throw (.ended how)

/-- Runs a step to the end of its shell, and what is to be done there. -/
def toEnd (evaluate : String → Run Nat) (step : Run Nat) : Run Nat := do
  let status ← settled step
  change fun p => { p with lastStatus := status }
  match (← process).traps.find? fun entry => entry.1 == 0 with
  | none => return status
  | some (_, action) => do
    change fun p => { p with traps := p.traps.filter fun entry => entry.1 != 0 }
    tryCatch (do let _ ← evaluate action; return status) fun i =>
      match i with
      | .exited status => return status
      | .failed status => return status
      | .ended how => throw (.ended how)
      | _ => return status

/-- Runs a step in a shell that is a copy of this one. -/
def inSubshell (evaluate : String → Run Nat) (step : Run Nat) : Run (Nat × ExitStatus) :=
  inChild do
    change fun p => { p with
      traps := p.traps.filter fun entry => entry.1 ≠ 0 && entry.2 == "" }
    return .code (← toEnd evaluate step)

/-- Runs a step in a shell that is a copy of this one, reads no input unless it is
told to, and cannot be interrupted. -/
def inBackground (evaluate : String → Run Nat) (step : Run Nat) : Run (Nat × ExitStatus) :=
  inSubshell evaluate do
    let nowhere ← opening { medium := .nowhere }
    bind_ 0 nowhere
    change fun p => { p with ignored := [2, 3] ++ p.ignored }
    step

/-- Does what is to be done on the signals that came in. -/
def answerSignals (evaluate : String → Run Nat) : Run Unit := do
  let pending ← pendingSignals
  let p ← process
  unless pending.isEmpty do
    changeShared fun s => { s with sent := s.sent.filter fun entry => entry.1 != p.number }
    pending.forM fun entry => do
      let _ ← evaluate entry.2
      change fun q => { q with lastStatus := p.lastStatus }

/-- Runs a step with settings of variables that hold for it alone, and are handed on
to programs. -/
def withSettings (capture : Capture) (settings : List (String × Word)) (step : Run Nat) :
    Run Nat := do
  let before ← settings.mapM fun entry => return (entry.1, ← lookup? entry.1)
  settings.forM fun entry => do
    assign entry.1 (← settingOf capture entry.2)
    adjust entry.1 fun v => { v with exported := true }
  let restoreAll : Run Unit := before.forM fun entry => replaceVariable entry.1 entry.2
  let status ← tryCatch step fun i => do
    restoreAll
    throw i
  restoreAll
  return status

/-- Runs a builtin, whose name messages tell. -/
def asBuiltin (name : String) (step : Run Nat) : Run Nat := do
  let before := (← process).builtin
  change fun p => { p with builtin := some name }
  let status ← tryCatch step fun i => do
    change fun p => { p with builtin := before }
    throw i
  change fun p => { p with builtin := before }
  return status

/-- A step whose failure is its status. -/
def forgiven (step : Run Nat) : Run Nat :=
  tryCatch step fun i =>
    match i with
    | .failed status => return status
    | i => throw i

/-- Calls a function: its arguments and what it makes its own are taken back behind
it. -/
def call (arguments : List String) (body : Run Nat) : Run Nat := do
  let before ← process
  change fun p => { p with
    arguments := arguments
    scan := {}
    loops := 0
    locals := [] :: p.locals }
  let restoreAll : Run Unit := do
    let own := (← process).locals.headD []
    own.forM takeBack
    change fun p => { p with
      arguments := before.arguments
      scan := before.scan
      loops := before.loops
      locals := before.locals }
  let status ← tryCatch body fun i => do
    restoreAll
    match i with
    | .returned status => return status
    | i => throw i
  if (← process).locals.length = before.locals.length then return status
  else do
    restoreAll
    return status

/-- What a loop does behind its body: whether it goes on, and its status. -/
def aroundBody (body : Run Nat) : Run (Bool × Nat) :=
  tryCatch (do return (true, ← body)) fun i =>
    match i with
    | .leave n => if n ≤ 1 then return (false, 0) else throw (.leave (n - 1))
    | .goOn n => if n ≤ 1 then return (true, 0) else throw (.goOn (n - 1))
    | i => throw i

/-- Repeats a body after a test, as often as the number allows. -/
def repeated (until_ : Bool) (test body : Run Nat) : Nat → Nat → Run Nat
  | 0, status => return status
  | n + 1, status => do
    let (goesOn, held) ← aroundBody do
      return if ((← test) == 0) != until_ then 1 else 0
    if !goesOn || held = 0 then return status
    else do
      let (goesOn, status) ← aroundBody body
      if goesOn then repeated until_ test body n status else return status

/-- Runs a body for each word. -/
def forWords (name : String) (body : Run Nat) : List String → Nat → Run Nat
  | [], status => return status
  | word :: rest, _ => do
    assign name word
    let (goesOn, status) ← aroundBody body
    if goesOn then forWords name body rest status else return status

/-- Runs a step with one more loop around it. -/
def inLoop (step : Run Nat) : Run Nat := do
  let before := (← process).loops
  change fun p => { p with loops := before + 1 }
  let restoreLoops : Run Unit := change fun p => { p with loops := before }
  let status ← tryCatch step fun i => do
    restoreLoops
    throw i
  restoreLoops
  return status

/-- Runs steps that feed one another, each in a shell that `start` gives it. -/
def fed (start : Run Nat → Run (Nat × ExitStatus)) :
    List (Run Nat) → Option Nat → Run (List (Nat × ExitStatus))
  | [], _ => return []
  | [last], input => do
    let ended ← start do
      if input.isSome then bind_ 0 input
      last
    return [ended]
  | first :: rest, input => do
    let channel ← opening { medium := .channel [] }
    let ended ← start do
      if input.isSome then bind_ 0 input
      bind_ 1 channel
      first
    return ended :: (← fed start rest channel)

/-- What a step writes, without the line ends behind it. -/
def captured (evaluate : String → Run Nat) (step : Run Nat) : Run String := do
  let channel ← opening { medium := .channel [] }
  let status ← waitingFor do
    return [← inSubshell evaluate do
      bind_ 1 channel
      step]
  change fun p => { p with wordStatus := status }
  let bytes := (← get).shared.left (channel.getD 0)
  let bytes := (bytes.filter (· ≠ 0)).reverse.dropWhile (· == 0x0A)
  return Text.ofOctets bytes.reverse

/-! ## Programs -/

/-- Runs a program that is no shell. -/
def useTool (t : Tool) (name : String) (arguments : List String)
    (environment : List (String × String)) : Run ExitStatus := do
  let m ← get
  let bytes ← left 0
  let input? := (← opened? 0).bind fun number => m.shared.opened[number]?
  let output? := (← opened? 1).bind fun number => m.shared.opened[number]?
  let input : Except InputFault Bytes := match input?.map Opened.medium with
    | none => .error .closed
    | some .directory => .error .isADirectory
    | some _ => .ok bytes
  let done := t {
    tree := m.shared.tree
    dir := m.process.dir
    name := name
    arguments := arguments
    input := input
    inputPlace := input?.bind m.shared.place?
    outputPlace := output?.bind m.shared.place?
    hasOutput := output?.isSome
    environment := environment }
  changeShared fun s => { s with tree := done.tree }
  if done.readsInput then pass 0 bytes.length
  done.written.forM fun entry => do
    let _ ← write (if entry.1 then 2 else 1) entry.2
  if output?.isNone && done.written.any fun entry => !entry.1 && !entry.2.isEmpty then
    let _ ← print 2 (name ++ ": write error: " ++ InputFault.closed.reason ++ "\n")
    return .code 1
  else return .code done.status

/-- The script that a shell is started with, its name and its arguments; or the message
that refuses it. A directory holds no script. -/
def startingScript (r : OptionSetting.Reading) (name : String) :
    Run (Except String (String × String × List String)) := do
  if r.changes.contains .takeScript then
    match r.rest with
    | [] => return .error "-c requires an argument"
    | [text] => return .ok (text, name, [])
    | text :: name :: arguments => return .ok (text, name, arguments)
  else match if ← has 's' then [] else r.rest with
    | [] => do
      change fun p => { p with options := (p.options.filter (· != 's')) ++ ['s'] }
      let bytes ← left 0
      pass 0 bytes.length
      return .ok (Text.ofOctets bytes, name, r.rest)
    | file :: arguments => do
      let m ← get
      match Tool.bytesOf m.shared.tree m.process.dir file with
      | .ok bytes => return .ok (Text.ofOctets bytes, file, arguments)
      | .error .isADirectory => return .ok ("", file, arguments)
      | .error e => return .error ("cannot open " ++ file ++ ": " ++ refusal "No such file" e)

/-- A shell at its start. -/
def fresh (outer : Process) (name : String) (environment : List (String × String)) : Process :=
  let path := (FileTree.pathOf outer.dir).text
  let given : List Variable := environment.filterMap fun entry =>
    if isName entry.1.toList && !(["PWD", "OLDPWD", "IFS"].contains entry.1) then
      some ⟨entry.1, some entry.2, true, false⟩
    else none
  let usual : List Variable :=
    [⟨"PWD", some path, true, false⟩, ⟨"IFS", some " \t\n", false, false⟩,
      ⟨"PS1", some "# ", false, false⟩, ⟨"PS2", some "> ", false, false⟩,
      ⟨"PS4", some "+ ", false, false⟩, ⟨"OPTIND", some "1", false, false⟩,
      ⟨"PATH", some defaultPath, false, false⟩]
  let parent : Variable :=
    ⟨"PPID", some (Nat.repr outer.parent), given.any fun v => v.name == "PPID", false⟩
  let given := given.filter fun v => v.name != "PPID"
  let missing := (parent :: usual).filter fun v => !given.any fun w => w.name == v.name
  { name := name
    dir := outer.dir
    line := 0
    path := path
    store := given ++ missing
    descriptors := outer.descriptors
    mask := outer.mask
    ignored := outer.ignoredByAll
    number := outer.number
    main := outer.number
    parent := outer.parent }

/-- What is said of a program that cannot be run, and the status that this gives. -/
def startFailure (name : String) (e : IoError) : String × Nat :=
  if name = "" then (": Permission denied", 127)
  else match e with
    | .notFound => (name ++ ": not found", 127)
    | .notADirectory => (name ++ ": not found", 127)
    | .permissionDenied => (name ++ ": Permission denied", 126)
    | e => (name ++ ": " ++ Tool.reason e, 127)

/-- Finds a program by the search path of the shell. -/
def locate (name : String) : Run (Except IoError Program) := do
  let m ← get
  let searchPath := (← value? "PATH").getD defaultPath
  return Program.find m.shared.tree m.process.dir searchPath name

/-- The file of a script that is to be read in place: a path, or a name that is looked for
in the directories of the search path. -/
def scriptFile (name : String) : Run String := do
  if name.toList.contains '/' then return name
  else
    let m ← get
    let searchPath := (← value? "PATH").getD defaultPath
    let paths := (searchPath.splitOn ":").map fun directory =>
      if directory = "" then name else directory ++ "/" ++ name
    match paths.find? fun path => m.shared.tree.isFile m.process.dir ⟨path⟩ with
    | some path => return path
    | none => fail (name ++ ": not found")

/-- Remembers that a program was found by its name. -/
def remember (name : String) : Run Unit :=
  change fun p =>
    if name.toList.contains '/' || p.found.contains name then p
    else { p with found := p.found ++ [name] }

/-- The path of a program that is found by its name. -/
def path? (name : String) : Run (Option String) := do
  let m ← get
  let searchPath := (← value? "PATH").getD defaultPath
  return Program.path? m.shared.tree m.process.dir searchPath name

/-- Forgets what was found, lists it, or finds what is named. -/
def lookUp (arguments : List String) : Run Nat := do
  let (letters, names) ← Builtin.options ['r'] arguments
  if letters.contains 'r' then do
    change fun p => { p with found := [] }
    return 0
  else if names.isEmpty then do
    ((← process).found.mergeSort fun a b => Builtin.listed 31 a ≤ Builtin.listed 31 b).forM fun name => do
      let _ ← print 1 (((← path? name).getD name) ++ "\n")
    return 0
  else do
    let statuses ← names.mapM fun name => do
      let p ← process
      if name.toList.contains '/' || Builtin.isBuiltin name ||
          p.functions.any fun f => f.name == name then return 0
      else match ← locate name with
        | .ok _ => do
          remember name
          return 0
        | .error e => do
          complain (startFailure name e).1
          return 1
    return statuses.foldl max 0

/-- What `command -v` and `type` say of a name. -/
def describe (long : Bool) (name : String) : Run (Option String) := do
  let p ← process
  let say (short kind : String) := some (if long then name ++ " is " ++ kind else short)
  if Token.keywords.contains name then return say name "a shell keyword"
  else if let some entry := p.aliases.find? fun entry => entry.1 == name then
    return some (if long then name ++ " is an alias for " ++ entry.2
      else "alias " ++ Builtin.aliasText entry)
  else if specialBuiltins.contains name then return say name "a special shell builtin"
  else if p.functions.any fun f => f.name == name then return say name "a shell function"
  else if Builtin.isBuiltin name then return say name "a shell builtin"
  else if name.toList.contains '/' then return say name name
  else
    let isKnown := p.found.contains name
    match ← path? name with
    | some path => do
      remember name
      return say path (if isKnown then "a tracked alias for " ++ path else path)
    | none => return none

/-- Tells what names stand for. -/
def tell (long : Bool) (names : List String) : Run Nat := do
  let statuses ← names.mapM fun name => do
    match ← describe long name with
    | some text => Builtin.put (text ++ "\n")
    | none => do
      if long then
        let _ ← print 1 (name ++ ": not found\n")
      return 127
  return statuses.foldl max 0

/-- The words of a setting in place of an argument, which is not split. -/
def settingWord? (word : Word) : Option (String × Word) :=
  match word with
  | .text text false :: rest =>
    (setting? text).map fun entry =>
      (entry.1, if entry.2.isEmpty then rest else .text entry.2 false :: rest)
  | _ => none

/-- The fields of the words of a command. What sets variables for `export` and the
like is not split. -/
def commandFields (capture : Capture) (words : List Word) : Run (List String) := do
  let rec go (sets : Bool) : Nat → List Word → Run (List String)
    | _, [] => return []
    | place, word :: rest => do
      match settingWord? word, sets with
      | some (name, value), true => do
        let text ← settingOf capture value
        return (name ++ "=" ++ text) :: (← go sets (place + 1) rest)
      | _, _ => do
        let fields ← fieldsOf capture word
        let sets := if place = 0 then
          fields.any fun f => ["export", "readonly", "local", "command"].contains f else sets
        return fields ++ (← go sets (place + 1) rest)
  go false 0 words

/-- The text in front of commands that are shown: the value of a variable, with what
stands in it put in. There are no scripts to be run in it. If it cannot be put in, the
value stands for itself. -/
def traceMark : Run String := do
  let text := (← value? "PS4").getD ""
  let p ← process
  let source : Source := { rest := text.toList, line := p.line }
  match (Reading.partsOf (return Command.nothing) (text.length + 1) .document []).run source with
  | .error e => do
    complain ("Syntax error: " ++ e.message)
    return text
  | .ok (word, _) =>
    tryCatch (textOf (fun _ => return "") word) fun i =>
      match i with
      | .failed _ => return text
      | i => throw i

/-- Writes what is run, if the options ask for it. -/
def trace (texts : List String) : Run Unit := do
  if ← has 'x' then
    let mark ← traceMark
    let _ ← print 2 (mark ++ " ".intercalate texts ++ "\n")

/-- The end of a compound command whose places cannot be had: its own commands are not run, and
where a failure ends the script, this one does. -/
def refusedPlaces (place : Place) : Run Nat := do
  change fun p => { p with lastStatus := 2 }
  if !place.tested && (← has 'e') then throw (.exited 2) else return 2

/-! ## Commands -/

mutual

/-- Runs a command, and gives its status. -/
def execute : Nat → Place → Command → Run Nat
  | 0, _, _ => throw (.exited 2)
  | n + 1, place, command => do
    if ← has 'n' then return 0
    let evaluate := evaluate n
    let inner : Place := { place with isFinal := true }
    let alone : Place := { inner with tested := false }
    let capture : Capture := fun script => captured evaluate (execute n alone script)
    let between : Place := { place with isFinal := false }
    let asked : Place := { between with tested := true }
    let takesPlace := place.isFinal && !(← process).hasTraps
    let mayEnd := match command with
      | .simple .. => true
      | .subshell _ => true
      | .redirected _ (.subshell _) _ => true
      | .pipeline _ => true
      | _ => false
    let status ← match command with
      | .simple line settings words rs => simple n place line settings words rs
      | .sequence commands => sequence n place commands 0
      | .both first second => do
        let status ← execute n asked first
        if status = 0 then execute n place second else pure status
      | .either first second => do
        let status ← execute n asked first
        if status = 0 then pure status else execute n place second
      | .negation c => do
        pure (if (← execute n asked c) = 0 then 1 else 0)
      | .pipeline commands =>
        waitingFor (fed (inSubshell evaluate) (commands.map (execute n inner)) none)
      | .background (.pipeline commands) =>
        goingOn (fed (inBackground evaluate) (commands.map (execute n alone)) none)
      | .background c => goingOn do
        return [← inBackground evaluate (execute n alone c)]
      | .subshell c =>
        if takesPlace then execute n place c
        else waitingFor do
          return [← inSubshell evaluate (execute n inner c)]
      | .redirected line (.subshell c) rs => do
        change fun p => { p with line := line }
        let targets ← targetsOf capture place.documents rs
        let bound (c : Run Nat) : Run Nat := withTargets capture targets (return 2) c
        if takesPlace then bound (execute n place c)
        else waitingFor do
          return [← inSubshell evaluate (bound (execute n inner c))]
      | .redirected line c rs => do
        change fun p => { p with line := line }
        let targets ← targetsOf capture place.documents rs
        withTargets capture targets (refusedPlaces place) (execute n between c)
      | .conditional test yes no => do
        let status ← execute n asked test
        execute n place (if status = 0 then yes else no)
      | .loop until_ test body =>
        inLoop (repeated until_ (execute n asked test) (execute n between body) n 0)
      | .forEach line name words body => do
        change fun p => { p with line := line }
        let values ← match words with
          | some words => do pure (← words.mapM (fieldsOf capture)).flatten
          | none => do pure (← process).arguments
        inLoop (forWords name (execute n between body) values 0)
      | .choice line subject branches => do
        change fun p => { p with line := line }
        let text ← textOf capture subject
        let chosen ← branches.findM? fun branch => do
          let .mk patterns _ := branch
          patterns.anyM fun word => return (← patternOf capture word).matchesText text
        match chosen with
        | some (.mk _ body) => execute n place body
        | none => pure 0
      | .function name _ body => do
        change fun p => { p with
          functions := ⟨name, body, place.documents⟩ :: p.functions.filter fun f => f.name != name }
        pure 0
    change fun p => { p with lastStatus := status }
    answerSignals evaluate
    if mayEnd && status ≠ 0 && !place.tested && (← has 'e') then throw (.exited status)
    else return status

/-- Runs commands one after the other, given the status so far. -/
def sequence : Nat → Place → List Command → Nat → Run Nat
  | 0, _, _, _ => throw (.exited 2)
  | _ + 1, _, [], status => return status
  | n + 1, place, [last], _ => execute n place last
  | n + 1, place, first :: rest, _ => do
    let status ← execute n { place with isFinal := false } first
    sequence n place rest status

/-- Runs a simple command. -/
def simple : Nat → Place → Nat → List (String × Word) → List Word → List Redirection → Run Nat
  | 0, _, _, _, _, _ => throw (.exited 2)
  | n + 1, place, line, settings, words, rs => do
    let evaluate := evaluate n
    let alone : Place := { place with tested := false, isFinal := true }
    let capture : Capture := fun script => captured evaluate (execute n alone script)
    change fun p => { p with line := line, wordStatus := 0 }
    let fields ← commandFields capture words
    let targets ← targetsOf capture place.documents rs
    let assignAll : Run Unit := settings.forM fun entry => do
      let text ← settingOf capture entry.2
      assign entry.1 text
      trace [entry.1 ++ "=" ++ text]
    match fields with
    | [] => withTargets capture targets (return 2) do
      assignAll
      return (← process).wordStatus
    | ["exec"] => do
      redirect capture targets
      assignAll
      return 0
    | name :: arguments =>
      let traced (step : Run Nat) : Run Nat := do
        let texts ← settings.mapM fun entry => do
          return entry.1 ++ "=" ++ ((← value? entry.1).getD "")
        trace (texts ++ fields)
        step
      if specialBuiltins.contains name then
        withTargets capture targets (throw (.failed 2)) do
          settings.forM fun entry => do assign entry.1 (← settingOf capture entry.2)
          traced (asBuiltin name (runBuiltin n place name arguments))
      else
        withTargets capture targets (return 2)
          (withSettings capture settings (traced (runNamed n place true name arguments)))

/-- Runs a function, a builtin or a program by its name. -/
def runNamed : Nat → Place → Bool → String → List String → Run Nat
  | 0, _, _, _, _ => throw (.exited 2)
  | n + 1, place, withFunctions, name, arguments => do
    let p ← process
    match if withFunctions then p.functions.find? fun f => f.name == name else none with
    | some f =>
      let inner : Place := { place with documents := f.documents, isFinal := false }
      call arguments (execute n inner f.body)
    | none =>
      if Builtin.isBuiltin name then
        forgiven (asBuiltin name (runBuiltin n place name arguments))
      else do
        match ← locate name with
        | .error e => do
          let (message, status) := startFailure name e
          complain message
          return status
        | .ok program => do
          remember name
          let given ← environment
          if place.isFinal && !p.hasTraps then
            throw (.ended (← runProgram n program name arguments given))
          else waitingFor do
            return [← inChild (runProgram n program name arguments given)]

/-- Runs a builtin. -/
def runBuiltin : Nat → Place → String → List String → Run Nat
  | 0, _, _, _ => throw (.exited 2)
  | n + 1, place, name, arguments => do
    match name with
    | "eval" => lines n place.tested 0 { rest := (" ".intercalate arguments).toList }
    | "." => do
      let (_, arguments) ← Builtin.options [] arguments
      match arguments with
      | [] => return 0
      | name :: _ => do
        let file ← scriptFile name
        let m ← get
        match Tool.bytesOf m.shared.tree m.process.dir file with
        | .error .isADirectory => return 0
        | .error e => fail ("cannot open " ++ file ++ ": " ++ refusal "No such file" e)
        | .ok bytes => do
          change fun p => { p with builtin := some file }
          tryCatch (lines n place.tested 0 { rest := (Text.ofOctets bytes).toList }) fun i =>
            match i with
            | .returned status => return status
            | i => throw i
    | "exec" => do
      match arguments with
      | [] => return 0
      | name :: rest => do
        match ← locate name with
        | .error e => do
          let (message, status) := startFailure name e
          complain message
          throw (.exited status)
        | .ok program => throw (.ended (← runProgram n program name rest (← environment)))
    | "command" => do
      let (letters, arguments) ← Builtin.options ['p', 'v', 'V'] arguments
      match arguments with
      | [] => return 0
      | name :: rest =>
        if letters.contains 'v' then tell false [name]
        else if letters.contains 'V' then tell true [name]
        else do
          change fun p => { p with builtin := none }
          runNamed n place false name rest
    | "type" => tell true arguments
    | "hash" => lookUp arguments
    | name =>
      match (Builtin.special ++ Builtin.regular).find? fun entry => entry.1 == name with
      | some entry => entry.2 arguments
      | none => return 127

/-- Runs a program with arguments and an environment. -/
def runProgram : Nat → Program → String → List String → List (String × String) → Run ExitStatus
  | 0, _, _, _, _ => throw (.exited 2)
  | n + 1, program, name, arguments, given => do
    match program with
    | .tool t => useTool t name arguments given
    | .environment => do
      let empties := arguments.head? = some "-i" || arguments.head? = some "-"
      let arguments := if empties then arguments.drop 1 else arguments
      let isSetting (text : String) : Bool := text.toList.contains '='
      let settings := (arguments.takeWhile isSetting).map fun text =>
        (String.ofList (text.toList.takeWhile (· ≠ '=')),
          String.ofList ((text.toList.dropWhile (· ≠ '=')).drop 1))
      let kept := (if empties then [] else given).filter fun entry =>
        !settings.any fun set => set.1 == entry.1
      let given := kept ++ settings
      match arguments.dropWhile isSetting with
      | [] => do
        let _ ← print 1 (String.join (given.map fun entry => entry.1 ++ "=" ++ entry.2 ++ "\n"))
        return .code 0
      | command :: rest => do
        match ← locate command with
        | .ok program => runProgram n program command rest given
        | .error e => do
          let _ ← print 2 (name ++ ": '" ++ command ++ "': " ++ Tool.reason e ++ "\n")
          return .code (if e = .permissionDenied then 126 else 127)
    | .shell => do
      let outer ← process
      let refuse (message : String) : Run ExitStatus := do
        let _ ← print 2 (name ++ ": 0: " ++ message ++ "\n")
        return .code 2
      let r := OptionSetting.read true arguments
      change fun _ => fresh outer name given
      r.changes.forM Builtin.applyChange
      let status ← match r.fault with
        | some text => refuse ("Illegal option " ++ text)
        | none => do
          match ← startingScript r name with
          | .error message => refuse message
          | .ok (text, name, arguments) => do
            change fun p => { p with name := name, arguments := arguments, line := 1 }
            tryCatch
              (do return .code (← toEnd (evaluate n) (lines n false 0 { rest := text.toList }))) fun i =>
                match i with
                | .ended how => return how
                | .exited status => return .code status
                | _ => return .code 2
      change fun _ => outer
      return status

/-- Runs the lines of a script that are left, given the status so far. -/
def lines : Nat → Bool → Nat → Source → Run Nat
  | 0, _, _, _ => throw (.exited 2)
  | n + 1, tested, status, source => do
    match Reading.nextLine.run { source with aliases := (← process).aliases } with
    | .error e => do
      change fun p => { p with line := e.line }
      fail ("Syntax error: " ++ e.message)
    | .ok (none, _) => return status
    | .ok (some line, source) => do
      match line.command with
      | .sequence [] => lines n tested status source
      | command => do
        let status ← execute n { tested := tested, documents := line.documents } command
        lines n tested status source

/-- Runs a text as a script. -/
def evaluate : Nat → String → Run Nat
  | 0, _ => throw (.exited 2)
  | n + 1, text => lines n false 0 { rest := text.toList }

end

end Run

/-! ## Commands from outside -/

/-- What running a command gives. -/
structure Finished where
  tree : FileTree
  status : ExitStatus
  output : Bytes := []
  errors : Bytes := []

/-- How deep commands may be nested, and how often repeated. -/
def depth : Nat := 100000

/-- The number of the process that runs a command from outside. -/
def firstProcess : Nat := 4241

/-- Whether a text can be neither a path nor an argument. -/
def holdsNul (text : String) : Bool :=
  text.toList.contains '\x00'

/-- Runs a command in the directory at a path. -/
def run (t : FileTree) (workingDir : Location) (directory : Path)
    (environment : List (String × String)) (name : String) (arguments : List String) :
    Except IoError Finished := do
  if holdsNul name || arguments.any holdsNul || holdsNul directory.text then
    throw .invalidArgument
  else
    let machine := Installation.under t
    let dir ← match ← machine.find workingDir directory with
      | (location, .directory) => .ok location
      | _ => .error .notADirectory
    let searchPath := ((environment.find? fun entry => entry.1 == "PATH").map Prod.snd).getD
      Run.defaultPath
    let program ← Program.find machine dir searchPath name
    let opened : List Opened :=
      [{ medium := .nowhere }, { medium := .channel [] }, { medium := .channel [] }]
    let outer : Process :=
      { name := name, dir := dir, path := (FileTree.pathOf dir).text
        descriptors := [(0, 0), (1, 1), (2, 2)]
        number := firstProcess + 1
        main := firstProcess + 1
        parent := firstProcess }
    let arguments := arguments.map fun argument => Text.ofOctets argument.toUTF8.toList
    let (result, m) := (Run.runProgram depth program name arguments environment).run.run
      ⟨{ tree := machine, opened := opened, started := firstProcess + 1
         alive := [firstProcess + 1, firstProcess] }, outer⟩
    let status := match result with
      | .ok status => status
      | .error _ => .code 2
    return {
      tree := Installation.taken t m.shared.tree
      status := status
      output := m.shared.left 1
      errors := m.shared.left 2 }

end ModuleBundler.Shell
