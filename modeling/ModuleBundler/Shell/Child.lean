/-
# ModuleBundler.Shell.Child -- the processes that a shell starts

A process that is started runs to its end before the one that started it goes on: what
is not waited for has ended as well, but the shell learns of that only when it waits for
something. A signal that reaches a process while another runs is answered when that one
has ended, by death at once, and by a trap behind the command at hand.
-/

import ModuleBundler.Shell.Process

namespace ModuleBundler.Shell.Run

/-- Runs a step in a process of its own, which starts as a copy of this one. Gives its
number, and how it ended. -/
def inChild (step : Run ExitStatus) : Run (Nat × ExitStatus) := do
  let before ← process
  let number := (← get).shared.started + 1
  changeShared fun s => { s with started := number, alive := number :: s.alive }
  change fun p => { p with number := number, parent := before.number, jobs := [] }
  let status ← tryCatch step fun i =>
    match i with
    | .ended how => return how
    | .exited status => return .code status
    | _ => return .code 2
  change fun _ => before
  return (number, status)

/-- Learns of the end of processes, and of that of all jobs. -/
def learnEnds (ended : List (Nat × ExitStatus)) : Run Unit := do
  let jobs := (← process).jobs
  let numbers := (ended ++ jobs.flatMap Job.processes).map Prod.fst
  changeShared fun s => { s with alive := s.alive.filter fun n => !numbers.contains n }
  change fun p => { p with jobs := p.jobs.settled }

/-- Says which processes were ended by signals; of interrupts and of broken pipes
nothing is said. -/
def sayEnds (ends : List ExitStatus) : Run Unit :=
  ends.forM fun status =>
    match status with
    | .signal s => do
      if s.number ≠ 2 && s.number ≠ 13 then
        let _ ← print 2 (s.wording ++ "\n")
    | .code _ => return

/-- The signals that came in and are still to be answered: those that there is nothing
to do about are taken away, and one that ends the process does so. -/
def pendingSignals : Run (List (Signal × String)) := do
  let m ← get
  let own := m.process.number
  let mine := (m.shared.sent.filter fun entry => entry.1 == own).map Prod.snd
  match mine.find? fun s => m.process.response s == .death with
  | some s => throw (.ended (.signal s))
  | none => do
    let isPending (s : Signal) : Bool := m.process.response s != .nothing
    changeShared fun shared => { shared with
      sent := shared.sent.filter fun entry => entry.1 != own || isPending entry.2 }
    return mine.filterMap fun s =>
      match m.process.response s with
      | .action script => some (s, script)
      | _ => none

/-- Starts processes and waits for them. The status is that of the last one. -/
def waitingFor (start : Run (List (Nat × ExitStatus))) : Run Nat := do
  change fun p => { p with jobs := p.jobs.room.2 }
  let ended ← start
  learnEnds ended
  let _ ← pendingSignals
  sayEnds (ended.map Prod.snd)
  return ((ended.getLast?.map Prod.snd).getD (.code 0)).number

/-- Starts processes and goes on. -/
def goingOn (start : Run (List (Nat × ExitStatus))) : Run Nat := do
  let (place, kept) := (← process).jobs.room
  change fun p => { p with jobs := kept }
  let started ← start
  let job : Job := { place := place, processes := started }
  change fun p => { p with jobs := job :: p.jobs, lastJob := some job.number }
  return 0

end ModuleBundler.Shell.Run
