/-
# ModuleBundler.Shell.Job -- the commands that a shell does not wait for

A shell keeps a list of the commands that it started and went on without. A job has a
number in that list, which is free again when the job was waited for or was listed as
done; and it is one process, or several that feed one another.

The main statement is `firstFree_notMem`: a new job gets a number that no other has.
-/

import ModuleBundler.Shell.Signal

namespace ModuleBundler.Shell

/-- A command that a shell started and went on without. -/
structure Job where
  /-- The number under which it is listed. -/
  place : Nat
  /-- The numbers of its processes, and how they end. -/
  processes : List (Nat × ExitStatus)
  /-- Whether the shell has learned of its end. -/
  isDone : Bool := false
  /-- Whether it was waited for. -/
  isWaited : Bool := false
  deriving DecidableEq, Repr

/-- The jobs of a shell, the last one first. -/
abbrev Jobs := List Job

namespace Job

/-! ## One job -/

/-- The number by which it is known: that of its last process. -/
def number (job : Job) : Nat :=
  (job.processes.getLast?.map Prod.fst).getD 0

/-- How it ends: as its last process does. -/
def status (job : Job) : ExitStatus :=
  (job.processes.getLast?.map Prod.snd).getD (.code 0)

/-- What the list of jobs says of a job's end. -/
def stateText (job : Job) : String :=
  if !job.isDone then "Running"
  else match job.status with
    | .code 0 => "Done"
    | .code n => "Done(" ++ Nat.repr n ++ ")"
    | .signal s => s.wording

/-- Fills a text with blanks to the column where commands are named; there is at
least one. -/
def toColumn (text : String) (length : Nat) : String :=
  text ++ String.ofList (List.replicate (max 1 (33 - length)) ' ')

/-- The entry of a job in the list, behind a mark: a line, or one for each process
where these are numbered. -/
def entry (job : Job) (mark : Char) (areNumbered : Bool) : String :=
  let front := "[" ++ Nat.repr job.place ++ "] " ++ mark.toString ++ " "
  let numbered (n : Nat) : String := if areNumbered then Nat.repr n ++ " " else ""
  let first := front ++ numbered (job.processes.headD (0, .code 0)).1 ++ job.stateText
  let rest := job.processes.drop 1
  if areNumbered then
    let lines := rest.map fun process =>
      let text := String.ofList (List.replicate front.length ' ') ++ numbered process.1
      " |\n" ++ toColumn text text.length
    toColumn first first.length ++ String.join lines ++ "\n"
  else toColumn first first.length ++ String.join (rest.map fun _ => " | ") ++ "\n"

end Job

/-! ## The list -/

/-- The least number that is not among those given. -/
def firstFree (taken : List Nat) : Nat :=
  ((List.range (taken.length + 1)).find? fun n => !taken.contains (n + 1)).elim
    (taken.foldl max 0 + 1) (· + 1)

theorem firstFree_notMem (taken : List Nat) : firstFree taken ∉ taken := by
  unfold firstFree
  cases h : (List.range (taken.length + 1)).find? fun n => !taken.contains (n + 1) with
  | none =>
    intro hn
    have hle := List.le_max?_getD_of_mem (k := 0) hn
    simp only [Option.elim, List.foldl_max] at hle
    omega
  | some n => simpa using List.find?_some h

namespace Jobs

/-- The number for a process that is started, and the jobs that are kept beside it:
one that is done and was waited for gives its number away. -/
def room (jobs : Jobs) : Nat × Jobs :=
  let kept := jobs.filter fun job => !(job.isDone && job.isWaited)
  let place := firstFree (kept.map Job.place)
  (place, jobs.filter fun job => job.place != place)

/-- The jobs when the shell has learned of all that ended. -/
def settled (jobs : Jobs) : Jobs :=
  jobs.map fun job => { job with isDone := true }

/-- The jobs when some of them were waited for. -/
def waited (jobs : Jobs) (which : Job → Bool) : Jobs :=
  jobs.map fun job => if which job then { job with isWaited := true } else job

/-- The mark of a job in the list: the last one and the one before are marked. -/
def mark (jobs : Jobs) (job : Job) : Char :=
  if jobs.head?.any fun other => other.place == job.place then '+'
  else if (jobs.drop 1).head?.any fun other => other.place == job.place then '-'
  else ' '

/-! ## Jobs by name -/

/-- Why a name names no job. -/
inductive Fault where
  | unknown (name : String)
  | noCurrent
  | noPrevious
  /-- More than one job has it. -/
  | ambiguous (name : String)
  deriving DecidableEq, Repr

/-- The fault of a name in words. -/
def Fault.message : Fault → String
  | unknown name => "No such job: " ++ name
  | noCurrent => "No current job"
  | noPrevious => "No previous job"
  | ambiguous name => name ++ ": ambiguous"

/-- The job that a name names: `%` and a number, or a sign for the last job or the one
before. Jobs are kept without the texts of their commands, so that of the texts that
could name them all have none in front of them but the empty one. -/
def ofName (jobs : Jobs) (name : String) : Except Fault Job :=
  let orFault (job : Option Job) (fault : Fault) : Except Fault Job :=
    match job with
    | some job => .ok job
    | none => .error fault
  match name.toList with
  | ['%'] | ['%', '%'] | ['%', '+'] => orFault jobs.head? .noCurrent
  | ['%', '-'] => orFault (jobs.drop 1).head? .noPrevious
  | ['%', '?'] =>
    if jobs.length > 1 then .error (.ambiguous name) else orFault jobs.head? (.unknown name)
  | '%' :: digits =>
    let n := if digits.all Char.isDigit then (String.ofList digits).toNat? else none
    orFault (jobs.find? fun job => some job.place == n) (.unknown name)
  | _ => .error (.unknown name)

end Jobs

end ModuleBundler.Shell
