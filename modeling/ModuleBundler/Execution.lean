/-
# ModuleBundler.Execution -- the program from start to exit

A process reads its command line, does what it is asked to do, and ends with an
exit code. What it writes besides its output is its log, as far as it is shown,
what its commands write there, and at the end the error that stopped it.
-/

import ModuleBundler.Log.Selection
import ModuleBundler.Program

namespace ModuleBundler.Execution

/-- The bytes of notices: the lines of the events that are shown, and what
commands wrote. -/
def render (shown : Log.Selection) (notices : List Notice) : List UInt8 :=
  notices.flatMap fun notice =>
    match notice with
    | .event e => if shown.shows e then (e.line ++ "\n").toUTF8.toList else []
    | .written bytes => bytes

/-- What a process wrote. -/
structure Written where
  output : List UInt8
  errors : List UInt8
  deriving DecidableEq, Repr

/-- What was written since an earlier state, with an error that ended the run. -/
def written (shown : Log.Selection) (before after : Session) (failure : Option Failure) :
    Written where
  output := after.output.drop before.output.length
  errors := render shown (after.notices.drop before.notices.length) ++
    ((failure.map Failure.report).getD "").toUTF8.toList

/-- The setting that selects events. -/
def logSetting (s : Session) : Option String :=
  s.environment.get? "RUST_LOG"

/-- Which events of a run are shown. -/
def selection (i : CommandLine.Invocation) (s : Session) : Log.Selection :=
  .ofSetting i.level (logSetting s)

/-- A process that was run: its exit code, what it wrote, and a watch that goes on. -/
structure Ran where
  exitCode : Nat
  written : Written
  watching : Option Program.Watching

/-- Runs the program on a command line that can be run. -/
def run (i : CommandLine.Invocation) : StateM Session Ran := do
  let before ← get
  let outcome ← (Program.run i).run
  let after ← get
  let shown := written (selection i before) before after
  return match outcome with
    | .ok watching => ⟨0, complaining before (shown none), watching⟩
    | .error f => ⟨1, complaining before (shown (some f)), none⟩
where
  /-- What a process wrote, behind what it says of its settings. -/
  complaining (before : Session) (w : Written) : Written :=
    let complaints := (Log.Selection.complaints (logSetting before)).map (· ++ "\n")
    { w with errors := (String.join complaints).toUTF8.toList ++ w.errors }

/-- Makes the changes of a burst, and lets a watching program act on them. -/
def burst (i : CommandLine.Invocation) (w : Program.Watching) (base : Location)
    (changes : List Change) : StateM Session (Program.Watching × Written) := do
  let before ← get
  let w ← w.burst base changes
  return (w, written (selection i before) before (← get) none)

end ModuleBundler.Execution
