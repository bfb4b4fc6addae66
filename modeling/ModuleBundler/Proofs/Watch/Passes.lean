/-
# ModuleBundler.Proofs.Watch.Passes -- a watch and the passes of its rebuilds

`Step` is the watch as a whole: its loop, the files, which others may change at any time, and the
passes of its rebuilds, which run on the files as they are then. A `Moment` also says which
files the compile steps have written so far.

Nothing is left out by looking at the loop alone (`Step.run`), and the program makes such steps:
what a build has done is where a watch starts (`built_of_build`), and each burst of changes
leads from one moment at which the program waits to another (`At.burst`).
-/

import ModuleBundler.Proofs.Compression
import ModuleBundler.Proofs.Watch.History

namespace ModuleBundler.Program.Watching

open Compile (FileWrite)
open Relation (ReflTransGen)
open Watch (Signal Loop History Burst Run)

/-! ## Moments and steps -/

/-- The files that the compile step of a pass writes. -/
def writes (w : Watching) (s : Session) : List FileWrite :=
  (Compile.effects w.config s.workingDir s.tree w.targets).writes

/-- A watch at some moment. -/
structure Moment where
  session : Session
  loop : Loop := {}
  history : History := {}
  /-- Of the rebuild that is running, whether its pass succeeded. -/
  running : Option Bool := none
  /-- The files that compile steps have written so far. -/
  written : List FileWrite

/-- What can happen next. -/
inductive Step (w : Watching) : Moment → Moment → Prop
  /-- Others do something to the files. -/
  | others (m : Moment) (session : Session) : Step w m { m with session := session }
  | arrive (m : Moment) (signal : Signal) :
      Step w m { m with
        loop := m.loop.arrive signal
        history := { m.history with arrived := m.history.arrived ++ [signal] } }
  | take {m : Moment} {loop : Loop} {signal : Signal} {rest : List Signal} :
      m.loop.queue = signal :: rest → m.loop.take? w.watcher.scope = some loop →
      Step w m { m with
        loop := loop
        history := { m.history with atHand := m.history.atHand ++ [signal] } }
  /-- A burst is over, and nothing in it was relevant. -/
  | pause {m : Moment} {loop : Loop} : m.loop.expire? = some loop → loop.rebuilding = false →
      Step w m { m with
        loop := loop
        history := { m.history with
          past := m.history.past ++ [⟨m.history.atHand, loop.rebuilds - m.loop.rebuilds⟩]
          atHand := [] } }
  /-- A burst is over, and a rebuild starts with a pass. -/
  | rebuild {m : Moment} {loop : Loop} {outcome : Except Failure (List Compiled)}
      {session : Session} : m.loop.expire? = some loop → loop.rebuilding = true →
      (pass w.config w.targets w.optimized).run m.session = (outcome, session) →
      Step w m {
        session := session
        loop := loop
        history := { m.history with
          past := m.history.past ++ [⟨m.history.atHand, loop.rebuilds - m.loop.rebuilds⟩]
          atHand := [] }
        running := some outcome.toOption.isSome
        written := m.written ++ w.writes m.session }
  | finish {m : Moment} {loop : Loop} {well : Bool} : m.loop.finish? = some loop →
      m.running = some well →
      Step w m { m with
        loop := loop
        history := { m.history with ends := m.history.ends ++ [well] }
        running := none }

/-- The moment in which a watch starts, behind a first pass on some session. -/
def start (w : Watching) (before after : Session) : Moment where
  session := after
  written := w.writes before

variable {w : Watching} {m m' : Moment}

/-- The loop of a watch runs like any other. -/
theorem Step.run (h : Step w m m') (hrun : Run w.watcher.scope m.history m.loop) :
    Run w.watcher.scope m'.history m'.loop := by
  cases h with
  | others => exact hrun
  | arrive signal => exact hrun.arrive signal
  | take hqueue htake => exact hrun.take hqueue htake
  | pause hexpire _ => exact hrun.expire hexpire
  | rebuild hexpire _ _ => exact hrun.expire hexpire
  | finish hfinish _ => exact hrun.finish hfinish _

theorem run_of_steps (h : ReflTransGen (Step w) m m')
    (hrun : Run w.watcher.scope m.history m.loop) : Run w.watcher.scope m'.history m'.loop := by
  induction h with
  | refl => exact hrun
  | tail _ hstep ih => exact hstep.run ih

/-- What has arrived, is over or was written stays so. -/
structure Later (m m' : Moment) : Prop where
  arrived : m.history.arrived <+: m'.history.arrived
  past : m.history.past <+: m'.history.past
  written : m.written <+: m'.written

theorem Later.refl (m : Moment) : Later m m :=
  ⟨List.prefix_rfl, List.prefix_rfl, List.prefix_rfl⟩

theorem Later.trans {m'' : Moment} (h : Later m m') (h' : Later m' m'') : Later m m'' :=
  ⟨h.arrived.trans h'.arrived, h.past.trans h'.past, h.written.trans h'.written⟩

theorem Step.later (h : Step w m m') : Later m m' := by
  cases h with
  | others => exact ⟨List.prefix_rfl, List.prefix_rfl, List.prefix_rfl⟩
  | arrive signal => exact ⟨List.prefix_append _ _, List.prefix_rfl, List.prefix_rfl⟩
  | take => exact ⟨List.prefix_rfl, List.prefix_rfl, List.prefix_rfl⟩
  | pause => exact ⟨List.prefix_rfl, List.prefix_append _ _, List.prefix_rfl⟩
  | rebuild => exact ⟨List.prefix_rfl, List.prefix_append _ _, List.prefix_append _ _⟩
  | finish => exact ⟨List.prefix_rfl, List.prefix_rfl, List.prefix_rfl⟩

theorem later_of_steps (h : ReflTransGen (Step w) m m') : Later m m' := by
  induction h with
  | refl => exact .refl m
  | tail _ hstep ih => exact ih.trans hstep.later

/-- What every pass writes is known of the files that were written at any moment. -/
theorem written_of_steps {P : FileWrite → Prop} (hpass : ∀ s, ∀ write ∈ w.writes s, P write)
    (h : ReflTransGen (Step w) m m') (hwritten : ∀ write ∈ m.written, P write) :
    ∀ write ∈ m'.written, P write := by
  induction h with
  | refl => exact hwritten
  | tail _ hstep ih =>
    cases hstep with
    | rebuild =>
      intro write hwrite
      rcases List.mem_append.mp hwrite with hold | hnew
      · exact ih write hold
      · exact hpass _ write hnew
    | others | arrive | take | pause | finish => exact ih

/-! ## Where a watch starts -/

/-- What a build that goes on watching has done. -/
structure Built (c : Config) (request : CommandLine.BuildRequest) (before : Session)
    (w : Watching) (results : List Compiled) (after : Session) : Prop where
  config : w.config = c
  optimized : w.optimized = request.optimized
  selected : Target.select c.bundle request.targets request.exclude = .ok w.targets
  /-- The first pass succeeded. -/
  compiled : (pass c w.targets request.optimized).run before = (.ok results, after)
  /-- The outputs of the first pass were collected. -/
  outputs : w.watcher.scope.outputs =
    results.map fun r => Watch.canonical after.tree after.workingDir r.output
  idle : w.watcher.loop = {}

theorem built_of_build {c : Config} {request : CommandLine.BuildRequest} {before s : Session}
    (hbuild : (build c request).run before = (.ok (some w), s)) :
    ∃ results after, Built c request before w results after := by
  unfold build at hbuild
  cases hselect : Target.select c.bundle request.targets request.exclude with
  | error e =>
    rw [hselect] at hbuild
    cases (Prod.mk.inj hbuild).1
  | ok selected =>
    rw [hselect] at hbuild
    dsimp only at hbuild
    rcases hpass : (pass c selected request.optimized).run before with ⟨f | results, after⟩
    · rw [Job.run_bind_of_error hpass] at hbuild
      cases (Prod.mk.inj hbuild).1
    · rw [Job.run_bind_of_ok hpass] at hbuild
      split at hbuild
      · rw [Watch.start, Job.run_bind, Job.run_bind_of_ok (Job.run_get _)] at hbuild
        dsimp only at hbuild
        cases hfind : after.tree.find after.workingDir c.baseDir with
        | error e =>
          rw [hfind] at hbuild
          cases (Prod.mk.inj hbuild).1
        | ok found =>
          rw [hfind] at hbuild
          dsimp only at hbuild
          rw [Job.run_bind_of_ok (Job.run_report _ _)] at hbuild
          obtain ⟨hw, rfl⟩ := Prod.mk.inj hbuild
          obtain rfl := Option.some.inj (Except.ok.inj hw)
          exact ⟨results, after, rfl, rfl, hselect, hpass, by simp [Function.comp_def], rfl⟩
      · cases (Prod.mk.inj hbuild).1

/-! ## What the program does -/

/-- A watch of the program, at a moment at which it waits. -/
structure At (first : Watching) (m : Moment) (w : Watching) (s : Session) : Prop where
  session : m.session = s
  loop : m.loop = w.watcher.loop
  idle : m.loop.rebuilding = false
  /-- Only the loop and what is watched have changed. -/
  same : w = { first with watcher := w.watcher }
  scope : w.watcher.scope = first.watcher.scope

theorem exists_arrived (w : Watching) (m : Moment) (signals : List Signal) :
    ∃ m', ReflTransGen (Step w) m m' ∧ m'.session = m.session ∧
      m'.loop = signals.foldl Loop.arrive m.loop := by
  induction signals generalizing m with
  | nil => exact ⟨m, .refl, rfl, rfl⟩
  | cons signal rest ih =>
    obtain ⟨m', hsteps, hsession, hloop⟩ := ih _
    exact ⟨m', .head (.arrive m signal) hsteps, hsession, hloop⟩

theorem rebuilding_arrived (loop : Loop) (signals : List Signal) :
    (signals.foldl Loop.arrive loop).rebuilding = loop.rebuilding := by
  induction signals generalizing loop with
  | nil => rfl
  | cons signal rest ih => exact ih (loop.arrive signal)

/-- The session and the watcher after changes. -/
def changed (base : Location) (changes : List Change) (s : Session) (watcher : Watch.Watcher) :
    Session × Watch.Watcher :=
  changes.foldl (fun done change =>
    (done.1.changed (done.1.tree.change base change),
      done.2.notice (done.1.tree.change base change))) (s, watcher)

theorem exists_changed (w : Watching) (base : Location) {changes : List Change} {m : Moment}
    {watcher watcher' : Watch.Watcher} {s : Session} (hloop : m.loop = watcher.loop)
    (hchanged : changed base changes m.session watcher = (s, watcher')) :
    ∃ m', ReflTransGen (Step w) m m' ∧ m'.session = s ∧ m'.loop = watcher'.loop ∧
      m'.loop.rebuilding = m.loop.rebuilding ∧ watcher'.scope = watcher.scope := by
  induction changes generalizing m watcher with
  | nil =>
    obtain ⟨rfl, rfl⟩ := Prod.mk.inj hchanged
    exact ⟨m, .refl, rfl, hloop, rfl, rfl⟩
  | cons change rest ih =>
    let happened := m.session.tree.change base change
    obtain ⟨m₁, harrived, hsession₁, hloop₁⟩ := exists_arrived w
      { m with session := m.session.changed happened } (watcher.coverage.signals happened)
    rw [hloop] at hloop₁
    have hrest : changed base rest m₁.session (watcher.notice happened) = (s, watcher') := by
      rw [hsession₁]
      exact hchanged
    obtain ⟨m', hsteps, hsession, hloop', hbusy, hscope⟩ := ih hloop₁ hrest
    refine ⟨m', .head (.others m _) (harrived.trans hsteps), hsession, hloop', ?_, hscope⟩
    rw [hbusy, hloop₁, rebuilding_arrived, hloop]

/-- Taking what waits in the queue. -/
theorem exists_drained (w : Watching) (bound : Nat) (m : Moment) :
    ∃ m', ReflTransGen (Step w) m m' ∧ m'.session = m.session ∧
      m'.loop = m.loop.drain w.watcher.scope bound ∧ m'.loop.rebuilding = m.loop.rebuilding := by
  induction bound generalizing m with
  | zero => exact ⟨m, .refl, rfl, rfl, rfl⟩
  | succ bound ih =>
    rw [Loop.drain]
    cases htake : m.loop.take? w.watcher.scope with
    | none => exact ⟨m, .refl, rfl, rfl, rfl⟩
    | some loop =>
      obtain ⟨-, signal, rest, hqueue, htaken⟩ := Loop.take?_eq_some_iff.mp htake
      obtain ⟨m', hsteps, hsession, hloop, hbusy⟩ := ih { m with
        loop := loop
        history := { m.history with atHand := m.history.atHand ++ [signal] } }
      exact ⟨m', .head (.take hqueue htake) hsteps, hsession, hloop, hbusy.trans (by rw [htaken])⟩

/-- What a pass is followed by: if it failed, this is reported. -/
def told : Except Failure (List Compiled) → Session → Session
  | .ok _, s => s
  | .error f, s => { s with notices := s.notices ++ [.event (Watch.failedEvent f.messages)] }

/-- A watcher that took what waits in its queue. -/
def settled (watcher : Watch.Watcher) : Watch.Watcher :=
  { watcher with loop := watcher.loop.settle watcher.scope }

/-- A burst of the program: changes are noticed, and if a rebuild starts, there is a pass. -/
theorem burst_run (w : Watching) (base : Location) (changes : List Change) {s s₁ s₂ : Session}
    {watcher : Watch.Watcher} (hchanged : changed base changes s w.watcher = (s₁, watcher))
    {outcome : Except Failure (List Compiled)}
    (hpass : (pass w.config w.targets w.optimized).run s₁ = (outcome, s₂)) :
    (w.burst base changes).run s =
      if (settled watcher).loop.rebuilding then
        ({ w with watcher := (settled watcher).rebuilt s₁.tree (told outcome s₂).tree },
          told outcome s₂)
      else ({ w with watcher := settled watcher }, s₁) := by
  have hobserve : (w.watcher.observe base changes).run s =
      ((settled watcher, (settled watcher).loop.rebuilding), s₁) := by
    have hrun : (w.watcher.observe base changes).run s =
        ((settled (changed base changes s w.watcher).2,
          (settled (changed base changes s w.watcher).2).loop.rebuilding),
          (changed base changes s w.watcher).1) := rfl
    rw [hrun, hchanged]
  have hget : (get : StateM Session Session).run s₁ = (s₁, s₁) := rfl
  have hpass : ((pass w.config w.targets w.optimized).run : StateM Session _).run s₁ =
      (outcome, s₂) := hpass
  rw [burst, Job.run_bind_of_eq hobserve]
  dsimp only
  split
  · rw [Job.run_bind_of_eq hget, Job.run_bind_of_eq hpass]
    cases outcome <;> rfl
  · rfl

/-- Settling takes what waits, and ends the burst: nothing starts, or a rebuild is to start. -/
theorem exists_settled (w : Watching) {m : Moment} {watcher : Watch.Watcher}
    (hloop : m.loop = watcher.loop) (hscope : watcher.scope = w.watcher.scope)
    (hidle : m.loop.rebuilding = false) :
    ∃ m', ReflTransGen (Step w) m m' ∧ m'.session = m.session ∧
      (((settled watcher).loop.rebuilding = false ∧ m'.loop = (settled watcher).loop) ∨
        ((settled watcher).loop.rebuilding = true ∧
          m'.loop.expire? = some (settled watcher).loop)) := by
  obtain ⟨m', hsteps, hsession, hloop', hidle'⟩ := exists_drained w watcher.loop.queue.length m
  have hsettled : (settled watcher).loop = m'.loop.expire?.getD m'.loop := by
    rw [hloop', hloop, ← hscope]
    rfl
  rw [hidle] at hidle'
  cases hexpire : m'.loop.expire? with
  | none =>
    rw [hexpire, Option.getD_none] at hsettled
    rw [hsettled]
    exact ⟨m', hsteps, hsession, .inl ⟨hidle', rfl⟩⟩
  | some loop =>
    rw [hexpire, Option.getD_some] at hsettled
    rw [hsettled]
    cases hbusy : loop.rebuilding with
    | true => exact ⟨m', hsteps, hsession, .inr ⟨rfl, hexpire⟩⟩
    | false => exact ⟨_, hsteps.tail (.pause hexpire hbusy), hsession, .inl ⟨rfl, rfl⟩⟩

/-- A burst of the program leads from one moment at which it waits to another. -/
theorem At.burst {first : Watching} {m : Moment} {s : Session} (hat : At first m w s)
    (base : Location) (changes : List Change) :
    ∃ m', ReflTransGen (Step first) m m' ∧
      At first m' ((w.burst base changes).run s).1 ((w.burst base changes).run s).2 := by
  obtain ⟨rfl, hloop, hidle, hsame, hscope⟩ := hat
  obtain ⟨watcher₀, rfl⟩ : ∃ watcher₀, w = { first with watcher := watcher₀ } := ⟨_, hsame⟩
  rcases hchanged : changed base changes m.session watcher₀ with ⟨s₁, watcher⟩
  rcases hpass : (pass first.config first.targets first.optimized).run s₁ with ⟨outcome, s₂⟩
  obtain ⟨m₁, hsteps₁, rfl, hloop₁, hidle₁, hscope₁⟩ := exists_changed first base hloop hchanged
  obtain ⟨m₂, hsteps₂, hsession₂, hsettled⟩ :=
    exists_settled first hloop₁ (hscope₁.trans hscope) (hidle₁.trans hidle)
  have hsteps := hsteps₁.trans hsteps₂
  rw [burst_run { first with watcher := watcher₀ } base changes hchanged hpass]
  rcases hsettled with ⟨hquiet, hloop₂⟩ | ⟨hbusy, hexpire⟩
  · rw [if_neg (by simp [hquiet])]
    exact ⟨m₂, hsteps, hsession₂, hloop₂, hloop₂ ▸ hquiet, rfl, hscope₁.trans hscope⟩
  · rw [if_pos hbusy]
    -- The rebuild starts with a pass, what it failed in is reported, and then it ends; the watch
    -- is told of what the pass changed.
    have hfinish := Loop.finish?_eq_some_iff.mpr ⟨hbusy, rfl⟩
    have hpassed := ((hsteps.tail (.rebuild hexpire hbusy (hsession₂ ▸ hpass))).tail
      (.others _ (told outcome s₂))).tail (.finish hfinish rfl)
    obtain ⟨m', harrived, hsession, hloop'⟩ := exists_arrived first _
      (watcher.coverage.signals (m₁.session.tree.becoming (told outcome s₂).tree))
    refine ⟨m', hpassed.trans harrived, hsession, ?_, ?_, rfl, hscope₁.trans hscope⟩
    · rw [hloop', Watch.Watcher.rebuilt, hfinish]
      rfl
    · rw [hloop', rebuilding_arrived]

end ModuleBundler.Program.Watching
