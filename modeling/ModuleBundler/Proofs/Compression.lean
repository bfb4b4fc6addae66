/-
# ModuleBundler.Proofs.Compression -- what a pass compresses

The tasks of a pass are derived from the whole configuration, and the bundles that it wrote come
from the targets that were selected; the two are matched by name. As names are declared once,
they match one to one (`tasksFor_eq`), and a task names the file that its bundle was written to:
bundles are written to their destinations as seen from the base directory, and commands run there.

A task spawns the words of its command and reports that it does (`run_of_words`, `starts`).
`Compressed` is a run of tasks, one after the other, until one of them fails. The main statement is
`pass_compresses_compiled`.
-/

import ModuleBundler.Program
import ModuleBundler.Proofs.Compile.Effect
import ModuleBundler.Proofs.Config.Validity
import ModuleBundler.Proofs.Selection

namespace ModuleBundler

/-! ## Commands that are started -/

namespace Compress

/-- Whether an event reports the start of a command. -/
def isStart (e : Log.Event) : Bool :=
  e.part == .compression && e.message == "compressing bundle"

/-- The start that a notice reports, if it does. -/
def startOf? : Notice → Option Log.Event
  | .event e => if isStart e then some e else none
  | .written _ => none

/-- The starts of commands that are reported. -/
def starts (notices : List Notice) : List Log.Event :=
  notices.filterMap startOf?

theorem starts_append (notices more : List Notice) :
    starts (notices ++ more) = starts notices ++ starts more :=
  List.filterMap_append

theorem starts_written (bytes : List UInt8) : starts [.written bytes] = [] := rfl

theorem starts_events {events : List Log.Event} (h : ∀ e ∈ events, isStart e = false) :
    starts (events.map .event) = [] := by
  rw [starts, List.filterMap_map, List.filterMap_eq_nil_iff]
  intro e he
  simp [startOf?, h e he]

namespace Compressor

/-- The start of the command for a task. -/
def start (c : Compressor) (task : Task) : Log.Event :=
  startEvent task ((c.commandFor task).headD "")

/-- The session in which the start of a command was reported. -/
def announced (task : Task) (program : String) (s : Session) : Session :=
  { s with notices := s.notices ++ [.event (startEvent task program)] }

/-- The session behind a command that ended: the files are those that it left, and what it wrote
is passed on. -/
def ended (done : Shell.Finished) (s : Session) : Session :=
  { s with
    tree := done.tree
    output := s.output ++ done.output
    notices := if done.errors.isEmpty then s.notices else s.notices ++ [.written done.errors] }

/-- **The start of a command.** The program is the first word of the command for the task, the
other words are its arguments. It is spawned in the directory of the compressor, on the files of
the session and with its environment. The task fails if the program cannot be spawned, or if it
ends without success. -/
theorem run_of_words {c : Compressor} {task : Task} {program : String} {args : List String}
    (hwords : c.commandFor task = program :: args) (s : Session) :
    (c.run task).run s =
      match Shell.run s.tree s.workingDir c.workingDir s.environment program args with
      | .error e =>
        (.error ⟨["failed to spawn compress command: " ++ program], .io e⟩,
          announced task program s)
      | .ok done =>
        (if done.status.isSuccess then .ok ()
          else .error ⟨[], .commandFailed task.name done.status⟩,
          ended done (announced task program s)) := by
  rw [run, hwords]
  dsimp only
  rw [Job.run_bind_of_ok (Job.run_report _ _), Job.run_bind_of_ok (Job.run_get _)]
  dsimp only
  cases Shell.run s.tree s.workingDir c.workingDir s.environment program args with
  | error e => rfl
  | ok done =>
    dsimp only
    rw [Job.run_bind_of_ok (Job.run_set _ _)]
    cases done.status.isSuccess <;> rfl

theorem starts_announced (task : Task) (program : String) (s : Session) :
    starts (announced task program s).notices =
      starts s.notices ++ [startEvent task program] :=
  starts_append _ _

/-- What a command writes is no start of another one. -/
theorem starts_ended (done : Shell.Finished) (s : Session) :
    starts (ended done s).notices = starts s.notices := by
  show starts (if _ then _ else _) = _
  split
  · rfl
  · rw [starts_append, starts_written, List.append_nil]

/-- A command is started once for its task, whatever becomes of it. -/
theorem starts_run (c : Compressor) (hcommand : c.command ≠ []) (task : Task) (s : Session) :
    starts ((c.run task).run s).2.notices = starts s.notices ++ [c.start task] := by
  obtain ⟨program, args, hwords⟩ : ∃ program args, c.commandFor task = program :: args :=
    List.exists_cons_of_ne_nil (by simpa [commandFor] using hcommand)
  have hstart : c.start task = startEvent task program := by
    rw [start, hwords, List.headD_cons]
  rw [hstart, run_of_words hwords, ← starts_announced]
  split
  · rfl
  · exact starts_ended _ _

/-- The commands for tasks are run one after the other, until one of them fails: the tasks whose
commands are started, the outcome, and the session in the end. -/
inductive Compressed (c : Compressor) :
    List Task → Session → List Task → Except Failure Unit → Session → Prop
  | done (s : Session) : Compressed c [] s [] (.ok ()) s
  | next {task : Task} {rest started : List Task} {outcome : Except Failure Unit}
      {s s₁ s' : Session} : (c.run task).run s = (.ok (), s₁) →
      Compressed c rest s₁ started outcome s' →
      Compressed c (task :: rest) s (task :: started) outcome s'
  | stop {task : Task} {rest : List Task} {f : Failure} {s s' : Session} :
      (c.run task).run s = (.error f, s') →
      Compressed c (task :: rest) s [task] (.error f) s'

theorem exists_compressed (c : Compressor) (tasks : List Task) (s : Session) :
    ∃ started outcome s', (tasks.forM c.run).run s = (outcome, s') ∧
      Compressed c tasks s started outcome s' := by
  induction tasks generalizing s with
  | nil => exact ⟨[], .ok (), s, rfl, .done s⟩
  | cons task rest ih =>
    rcases hrun : (c.run task).run s with ⟨f | ⟨⟨⟩⟩, s₁⟩
    · exact ⟨[task], .error f, s₁, Job.run_bind_of_error hrun _, .stop hrun⟩
    · obtain ⟨started, outcome, s', hrest, hcompressed⟩ := ih s₁
      exact ⟨task :: started, outcome, s', (Job.run_bind_of_ok hrun _).trans hrest,
        .next hrun hcompressed⟩

variable {c : Compressor} {tasks started : List Task} {outcome : Except Failure Unit}
  {s s' : Session}

/-- Every command of a run is started once, in order, and no other. -/
theorem Compressed.starts_eq (h : Compressed c tasks s started outcome s')
    (hcommand : c.command ≠ []) :
    starts s'.notices = starts s.notices ++ started.map c.start := by
  have hstarted {task : Task} {s s₁ : Session} {outcome : Except Failure Unit}
      (hrun : (c.run task).run s = (outcome, s₁)) :
      starts s₁.notices = starts s.notices ++ [c.start task] := by
    rw [← c.starts_run hcommand task s, hrun]
  induction h with
  | done s => simp
  | next hrun _ ih =>
    rw [ih, hstarted hrun, List.map_cons, List.append_assoc, List.singleton_append]
  | stop hrun => exact hstarted hrun

/-- All commands are started, or the last one that was started is the one that failed. -/
theorem Compressed.started_eq (h : Compressed c tasks s started outcome s') :
    (outcome = .ok () ∧ started = tasks) ∨
      ∃ f front task behind, outcome = .error f ∧ tasks = front ++ task :: behind ∧
        started = front ++ [task] := by
  induction h with
  | done s => exact .inl ⟨rfl, rfl⟩
  | @next task _ _ _ _ _ _ _ _ ih =>
    rcases ih with ⟨rfl, rfl⟩ | ⟨f, front, failing, behind, rfl, rfl, rfl⟩
    · exact .inl ⟨rfl, rfl⟩
    · exact .inr ⟨f, task :: front, failing, behind, rfl, rfl, rfl⟩
  | @stop task rest f _ _ _ => exact .inr ⟨f, [], task, rest, rfl, rfl, rfl⟩

end Compressor

end Compress

/-! ## Tasks and results -/

namespace Program

open Compress (Task Compressor starts)
open Compress.Compressor (Compressed)
open Target (all_names_nodup eq_filter_of_select)

/-- The tasks for bundles that were written are those of the targets that were selected. -/
theorem tasksFor_eq {b : BundleSection} {p : Target → Bool} {results : List Compiled}
    (hresults : results.map Compiled.target =
      ((Target.all b).filter p).filterMap fun target => target.dest.map fun _ => target.name) :
    tasksFor (Compress.tasks b) results = ((Target.all b).filter p).filterMap Task.ofTarget? := by
  have hwritten {target : Target} (htarget : target ∈ Target.all b) (hdest : target.dest ≠ none) :
      (results.any fun r => r.target == target.name) = p target := by
    have hmem : (results.any fun r => r.target == target.name) = true ↔
        target.name ∈ results.map Compiled.target := by simp
    rw [Bool.eq_iff_iff, hmem, hresults, List.mem_filterMap]
    -- A result with this name comes from a target that was selected; there is but one of the name.
    constructor
    · rintro ⟨other, hother, hname⟩
      obtain ⟨hall, hselected⟩ := List.mem_filter.mp hother
      obtain ⟨_, -, hname⟩ := Option.map_eq_some_iff.mp hname
      have hsame : other = target :=
        List.inj_on_of_nodup_map (all_names_nodup b) hall htarget hname
      rw [← hsame, hselected]
    · intro hselected
      obtain ⟨dest, hdest⟩ := Option.ne_none_iff_exists'.mp hdest
      exact ⟨target, List.mem_filter.mpr ⟨htarget, hselected⟩, by rw [hdest]; rfl⟩
  rw [tasksFor, Compress.tasks, List.filter_filterMap, List.filterMap_filter]
  refine List.filterMap_congr fun target htarget => ?_
  cases hdest : target.dest with
  | none => simp [Task.ofTarget?, hdest]
  | some dest =>
    simp only [Task.ofTarget?, hdest, Option.map_some, Option.filter_some,
      hwritten htarget (by simp [hdest])]

/-! ## A pass -/

/-- What a pass reports of its tasks before it starts a command. -/
def planReports (c : Config) (optimized : Bool) : List Log.Event :=
  Compress.planEvents c optimized ++
    match Compress.plan c optimized with
    | .ok _ => []
    | .error e => [skippedEvent e]

/-- The session of a pass that has compiled and reported. -/
def reported (c : Config) (optimized : Bool) (results : List Compiled) (s : Session) : Session :=
  { s with
    output := s.output ++ (Report.compiled results).toUTF8.toList
    notices := s.notices ++ (planReports c optimized).map .event }

theorem starts_reported (c : Config) (optimized : Bool) (results : List Compiled) (s : Session) :
    starts (reported c optimized results s).notices = starts s.notices := by
  have hplain : ∀ e ∈ planReports c optimized, Compress.isStart e = false := by
    intro e he
    rcases List.mem_append.mp he with he | he
    · unfold Compress.planEvents at he
      split at he
      · obtain ⟨target, -, rfl⟩ := List.mem_map.mp he
        rfl
      · cases he
    · split at he
      · cases he
      · rw [List.mem_singleton.mp he]
        rfl
  rw [reported, Compress.starts_append, Compress.starts_events hplain, List.append_nil]

section Pass

variable {c : Config} {ts : List Target} {s s₁ : Session} {results : List Compiled}

/-- Once its targets are compiled, a pass reports; then it may compress. -/
theorem pass_run (hcompile : (Compile.targets c ts).run s = (.ok results, s₁)) (optimized : Bool) :
    (pass c ts optimized).run s =
      match Compress.plan c optimized, optimized with
      | .ok tasks, true =>
        (((compressOutputs c tasks results).run (reported c optimized results s₁)).1.map
            fun _ => results,
          ((compressOutputs c tasks results).run (reported c optimized results s₁)).2)
      | _, _ => (.ok results, reported c optimized results s₁) := by
  have hprint : (Job.print (Report.compiled results)).run s₁ =
      (.ok (), { s₁ with output := s₁.output ++ (Report.compiled results).toUTF8.toList }) := rfl
  rw [pass, Job.run_bind_of_ok hcompile, Job.run_bind_of_ok hprint,
    Job.run_bind_of_ok (Job.run_forM_report _ _)]
  cases hplan : Compress.plan c optimized with
  | error e =>
    dsimp only
    rw [Job.run_bind_of_ok (Job.run_report _ _)]
    simp [reported, planReports, hplan]
  | ok tasks =>
    have hreported : reported c optimized results s₁ =
        { s₁ with
          output := s₁.output ++ (Report.compiled results).toUTF8.toList
          notices := s₁.notices ++ (Compress.planEvents c optimized).map .event } := by
      simp [reported, planReports, hplan]
    rw [← hreported]
    cases optimized with
    | false => rfl
    | true =>
      dsimp only
      rw [if_pos rfl, Job.run_bind]
      rcases (compressOutputs c tasks results).run (reported c true results s₁) with ⟨_ | _, _⟩ <;>
        rfl

/-- A pass that succeeds gives what its targets gave. -/
theorem exists_compiled_of_pass {optimized : Bool} {s' : Session}
    (hpass : (pass c ts optimized).run s = (.ok results, s')) :
    ∃ s₁, (Compile.targets c ts).run s = (.ok results, s₁) := by
  rcases hcompile : (Compile.targets c ts).run s with ⟨f | compiled, s₁⟩
  · rw [pass, Job.run_bind_of_error hcompile] at hpass
    cases hpass
  · suffices hsame : compiled = results from ⟨s₁, by rw [hsame]⟩
    rw [pass_run hcompile] at hpass
    split at hpass
    · next tasks _ =>
      have houtcome := (Prod.mk.inj hpass).1
      cases hrun : ((compressOutputs c tasks compiled).run (reported c true compiled s₁)).1 with
      | error f =>
        rw [hrun] at houtcome
        cases houtcome
      | ok done =>
        rw [hrun] at houtcome
        exact Except.ok.inj houtcome
    · exact Except.ok.inj (Prod.mk.inj hpass).1

/-- A pass that was not asked to compress, or has no command for it, starts none. -/
theorem pass_run_of_not_compressing
    (hcompile : (Compile.targets c ts).run s = (.ok results, s₁)) {optimized : Bool}
    (h : optimized = false ∨ c.compress = none) :
    (pass c ts optimized).run s = (.ok results, reported c optimized results s₁) := by
  rw [pass_run hcompile]
  rcases h with rfl | hnone
  · split <;> simp_all
  · split
    · next tasks hplan =>
      simp [Compress.plan, Compress.isWanted, hnone] at hplan
    · rfl

/-- A pass that compresses runs the commands for the bundles that it wrote. -/
theorem pass_run_of_compressing
    (hcompile : (Compile.targets c ts).run s = (.ok results, s₁)) {section_ : CompressSection}
    (hsection : c.compress = some section_) (hcommand : section_.command ≠ []) :
    (pass c ts true).run s =
      ((((tasksFor (Compress.tasks c.bundle) results).forM
            (⟨section_.command, c.baseDir⟩ : Compressor).run).run
          (reported c true results s₁)).1.map fun _ => results,
        (((tasksFor (Compress.tasks c.bundle) results).forM
            (⟨section_.command, c.baseDir⟩ : Compressor).run).run
          (reported c true results s₁)).2) := by
  have hplan : Compress.plan c true = .ok (Compress.tasks c.bundle) := by
    simp [Compress.plan, Compress.isWanted, hsection]
  have hcompressor : Compressor.ofSection section_ c.baseDir =
      .ok ⟨section_.command, c.baseDir⟩ := by
    simp [Compressor.ofSection, hcommand]
  rw [pass_run hcompile, hplan]
  dsimp only
  rw [compressOutputs, hsection]
  dsimp only
  rw [hcompressor]

end Pass

theorem command_ne_nil_of_check {c : Config} (h : c.check = .ok ()) {section_ : CompressSection}
    (hsection : c.compress = some section_) : section_.command ≠ [] :=
  (Config.check_eq_ok_iff.mp h).command section_ hsection

/-- Targets are compiled alike whatever the compress section is. -/
theorem targets_of_compress (c : Config) (compress : Option CompressSection) (ts : List Target) :
    Compile.targets { c with compress := compress } ts = Compile.targets c ts := by
  induction ts with
  | nil => rfl
  | cons target rest ih =>
    rw [Compile.targets, Compile.targets, ih]
    rfl

end Program

end ModuleBundler
