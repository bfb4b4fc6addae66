/-
# ModuleBundler.Proofs.Watch.Feedback -- what a watch makes of its own bundles

A watch runs passes, passes write bundles, and bundles lie where the watch looks. What keeps it
from going round in circles is a list that is made once, when the watch starts: the outputs of
the first pass. Whatever happens, the files that later passes write were written to paths of
this list (`Built.output_of_writes`), so signals about them are ignored, and once nothing else
arrives there are no further rebuilds.

Main statement: `bundles_start_no_rebuild`.
-/

import ModuleBundler.Proofs.Watch.Passes

namespace ModuleBundler

/-! ## Signals that start nothing -/

namespace Watch

variable {scope : Scope}

/-- If what arrives from some point on is not relevant, and all before it is in bursts that are
over, no further rebuild starts. -/
theorem rebuilds_eq_of_not_relevant {h h' : History} {l l' : Loop} (ha : Accounted scope h l)
    (ha' : Accounted scope h' l') {newer : List Burst} (hpast : h'.past = h.past ++ newer)
    {sooner later : List Signal} (harrived : h'.arrived = sooner ++ later)
    (hover : sooner.length ≤ (h.past.flatMap Burst.signals).length)
    (hlater : ∀ signal ∈ later, scope.isRelevant signal = false) : l'.rebuilds = l.rebuilds := by
  have hnewer : ∀ signal ∈ newer.flatMap Burst.signals, signal ∈ later := by
    intro signal hsignal
    have hsplit : sooner ++ later = h.past.flatMap Burst.signals ++
        (newer.flatMap Burst.signals ++ (h'.atHand ++ l'.queue)) := by
      rw [← harrived, ha'.placed, hpast, List.flatMap_append]
      simp only [List.append_assoc]
    have hdrop := congrArg (List.drop sooner.length) hsplit
    rw [List.drop_left, List.drop_append_of_le_length hover] at hdrop
    rw [hdrop]
    simp [hsignal]
  have hquiet : (newer.flatMap Burst.signals).countP scope.isRelevant = 0 := by
    rw [List.countP_eq_zero]
    intro signal hsignal
    simp [hlater signal (hnewer signal hsignal)]
  have hanswered : ∀ b ∈ newer, b.rebuilds = (b.signals.any scope.isRelevant).toNat :=
    fun b hb => ha'.answered b (by simp [hpast, hb])
  have hsum := sum_rebuilds_le hanswered
  rw [hquiet, Nat.le_zero] at hsum
  rw [ha'.counted, hpast, List.map_append, List.sum_append, hsum, ha.counted, Nat.add_zero]

/-- A signal about outputs alone is not relevant. -/
theorem isRelevant_of_outputs {kind : ChangeKind} {paths : List Path}
    (h : ∀ p ∈ paths, scope.isOutput p = true) :
    scope.isRelevant (.change kind paths) = false := by
  have hnone : (paths.any fun p => !scope.isOutput p && !scope.isHidden p) = false := by
    rw [List.any_eq_false]
    intro p hp
    simp [h p hp]
  rw [Scope.isRelevant, hnone, Bool.and_false]

end Watch

namespace Program.Watching

open Compile (FileWrite)
open Relation (ReflTransGen)
open Watch (Signal Loop History Burst Run)

variable {w : Watching}

/-! ## The list that is made once -/

section Built

variable {c : Config} {request : CommandLine.BuildRequest} {before after s : Session}
  {results : List Compiled}

/-- Every pass writes to outputs of the first pass, whatever it finds and however it ends. -/
theorem Built.output_of_writes (h : Built c request before w results after) {write : FileWrite}
    (hwrite : write ∈ w.writes s) : write.path ∈ results.map Compiled.output := by
  obtain ⟨target, htarget, dest, hdest, hpath⟩ := Compile.effects_paths hwrite
  obtain ⟨_, hcompiled⟩ := exists_compiled_of_pass h.compiled
  have hresult : (target.name, write.path) ∈ results.map fun r => (r.target, r.output) := by
    rw [Compile.results_of_targets_run hcompiled, ← h.config]
    exact List.mem_filterMap.mpr ⟨target, htarget, by rw [hdest, hpath]; rfl⟩
  obtain ⟨r, hr, hsame⟩ := List.mem_map.mp hresult
  exact List.mem_map.mpr ⟨r, hr, (Prod.mk.inj hsame).2⟩

/-- The first pass wrote each of its outputs, and nothing else. -/
theorem Built.map_path_writes (h : Built c request before w results after) :
    (w.writes before).map FileWrite.path = results.map Compiled.output := by
  obtain ⟨s, hcompiled⟩ := exists_compiled_of_pass h.compiled
  obtain ⟨_, hrun⟩ := Compile.targets_run c w.targets before
  rw [writes, h.config]
  exact (Compile.effects_ok (Prod.mk.inj (hrun.symm.trans hcompiled)).1).2

/-- A file that is reported at a path is known to a watch if the output that it was written to
led to this path when the watch started. -/
def Known (after : Session) (reported : Location → Path) (written : List FileWrite) : Prop :=
  ∀ write ∈ written, (Watch.canonical after.tree after.workingDir write.path).sameComponents
    (reported write.location) = true

/-- A signal about nothing but files that were written, of any kind. -/
def AboutBundles (reported : Location → Path) (written : List FileWrite) : Signal → Prop
  | .change _ paths => ∀ p ∈ paths, ∃ write ∈ written, p = reported write.location
  | .problem _ => False

/-- What a watch is told of its own bundles is not relevant. -/
theorem Built.not_relevant (h : Built c request before w results after)
    {reported : Location → Path} {written : List FileWrite}
    (houtputs : ∀ write ∈ written, write.path ∈ results.map Compiled.output)
    (hknown : Known after reported written) {signal : Signal}
    (habout : AboutBundles reported written signal) :
    w.watcher.scope.isRelevant signal = false := by
  cases signal with
  | problem message => rfl
  | change kind paths =>
    refine Watch.isRelevant_of_outputs fun p hp => ?_
    obtain ⟨write, hwrite, rfl⟩ := habout p hp
    obtain ⟨r, hr, houtput⟩ := List.mem_map.mp (houtputs write hwrite)
    have hlisted : Watch.canonical after.tree after.workingDir write.path ∈
        w.watcher.scope.outputs := by
      rw [h.outputs, ← houtput]
      exact List.mem_map_of_mem hr
    exact List.any_eq_true.mpr ⟨_, hlisted, hknown write hwrite⟩

end Built

/-! ## No way round in circles -/

/-- **Bundles start no rebuild.** Take a build that goes on watching, so that its first pass
succeeded.
* The outputs of the first pass are the files that it wrote. Whatever the files are when a later
  pass runs, and however it ends, the files that its compile step writes are among these
  outputs; elsewhere it makes directories at most.
* At every moment of the watch, a signal about nothing but files that passes have written is not
  relevant, of whatever kind it is.
* If all that arrives after some moment `m` are such signals, and all that had arrived before
  is in bursts that are over at a later moment `m₁`, no further rebuild starts behind `m₁`.
* The moments are those of the program: it starts at the first one, and each of its bursts leads
  from one to another.

This assumes that a file that was written is reported at the path that its output led to when
the watch started (`Known`). -/
theorem bundles_start_no_rebuild {c : Config} {request : CommandLine.BuildRequest}
    {before s : Session} (hbuild : (build c request).run before = (.ok (some w), s)) :
    ∃ results after, Built c request before w results after ∧
      (w.writes before).map FileWrite.path = results.map Compiled.output ∧
      (∀ session : Session, ∃ outcome session',
        (Compile.targets w.config w.targets).run session = (outcome, session') ∧
        FileTree.Wrote ((w.writes session).map FileWrite.location) session.tree session'.tree ∧
        ∀ write ∈ w.writes session, write.path ∈ results.map Compiled.output) ∧
      (∀ (reported : Location → Path) m, ReflTransGen (Step w) (w.start before s) m →
        Known after reported m.written → ∀ signal, AboutBundles reported m.written signal →
        w.watcher.scope.isRelevant signal = false) ∧
      (∀ (reported : Location → Path) m m₁ m', ReflTransGen (Step w) (w.start before s) m →
        ReflTransGen (Step w) m m₁ → ReflTransGen (Step w) m₁ m' →
        Known after reported m'.written →
        (∀ signal ∈ m'.history.arrived.drop m.history.arrived.length,
          AboutBundles reported m'.written signal) →
        m.history.arrived.length ≤ (m₁.history.past.flatMap Burst.signals).length →
        m'.loop.rebuilds = m₁.loop.rebuilds) ∧
      At w (w.start before s) w s ∧
      ∀ m w' s', At w m w' s' → ∀ base changes, ∃ m', ReflTransGen (Step w) m m' ∧
        At w m' ((w'.burst base changes).run s').1 ((w'.burst base changes).run s').2 := by
  obtain ⟨results, after, hbuilt⟩ := built_of_build hbuild
  have houtputs {m : Moment} (hm : ReflTransGen (Step w) (w.start before s) m) :
      ∀ write ∈ m.written, write.path ∈ results.map Compiled.output :=
    written_of_steps (fun _ _ => hbuilt.output_of_writes) hm fun _ => hbuilt.output_of_writes
  refine ⟨results, after, hbuilt, hbuilt.map_path_writes, fun session => ?_,
    fun reported m hm hknown signal => ?_,
    fun reported m m₁ m' hm hm₁ hm' hknown hlater hover => ?_, ?_,
    fun m w' s' hat base changes => hat.burst base changes⟩
  · obtain ⟨_, hrun⟩ := Compile.targets_run w.config w.targets session
    exact ⟨_, _, hrun, Compile.effects_wrote _ _, fun _ => hbuilt.output_of_writes⟩
  · exact hbuilt.not_relevant (houtputs hm) hknown
  · have hreached := (hm.trans hm₁).trans hm'
    have hrun₁ := run_of_steps (hm.trans hm₁) .start
    have hrun' := run_of_steps hreached .start
    obtain ⟨newer, hpast⟩ := (later_of_steps hm').past
    have harrived := (later_of_steps (hm₁.trans hm')).arrived
    exact Watch.rebuilds_eq_of_not_relevant hrun₁.accounted hrun'.accounted hpast.symm
      (List.prefix_iff_eq_append.mp harrived).symm hover
      fun signal hsignal => hbuilt.not_relevant (houtputs hreached) hknown (hlater signal hsignal)
  · exact ⟨rfl, hbuilt.idle.symm, rfl, rfl, rfl⟩

/-- A source changes, a rebuild writes the bundle anew, and the watch is told of it: the burst
that this is in starts nothing. -/
theorem bundles_start_no_rebuild_rewritten :
    let before : Session := { tree := { entries := [(["a.js"], .file (.text "a();\n"))] } }
    let c : Config :=
      { bundle := { targets :=
          { entries := [("one", { src := some (.one "a.js"), dest := some ⟨"out.js"⟩ })] } }
        baseDir := ⟨"/"⟩ }
    let source : Signal := .change .modify [⟨"/a.js"⟩]
    let bundle : Signal := .change .create [⟨"/out.js"⟩]
    ∃ w s m m', (build c { watch := true }).run before = (.ok (some w), s) ∧
      ReflTransGen (Step w) (w.start before s) m ∧ ReflTransGen (Step w) m m' ∧
      m.loop.rebuilds = 1 ∧ m'.history.arrived = [source, bundle] ∧ m'.loop.queue = [] ∧
      m'.loop.rebuilds = m.loop.rebuilds := by
  intro before c source bundle
  let one : Target := ⟨"one", ["a.js"], some ⟨"out.js"⟩, {}⟩
  let write : FileWrite := ⟨⟨"/out.js"⟩, ["out.js"]⟩
  obtain ⟨s, hs⟩ : ∃ s, ((build c { watch := true }).run before).2 = s := ⟨_, rfl⟩
  have hwatching : (((build c { watch := true }).run before).1.toOption.bind id).map
      (fun w => (w.config, w.targets, w.optimized, w.watcher.scope)) =
        some (c, [one], false, ⟨⟨"/"⟩, [⟨"/out.js"⟩]⟩) := by decide +kernel
  obtain ⟨w, hw, hfields⟩ := Option.map_eq_some_iff.mp hwatching
  obtain ⟨hconfig, htargets, hoptimized, hscope⟩ : w.config = c ∧ w.targets = [one] ∧
      w.optimized = false ∧ w.watcher.scope = ⟨⟨"/"⟩, [⟨"/out.js"⟩]⟩ := by simpa using hfields
  obtain ⟨_, hoption, rfl⟩ := Option.bind_eq_some_iff.mp hw
  have hbuild : (build c { watch := true }).run before = (.ok (some w), s) :=
    Prod.ext (Job.eq_ok_of_toOption_eq_some hoption) hs
  obtain ⟨results, after, hbuilt, -, -, -, hnone, -⟩ := bundles_start_no_rebuild hbuild
  -- Every pass writes the bundle, and the watch knows where it is.
  have hfirst : w.writes before = [write] := by
    rw [writes, hconfig, htargets]
    decide +kernel
  have hsecond : w.writes s = [write] := by
    rw [writes, hconfig, htargets, ← hs]
    decide +kernel
  have hcanonical : Watch.canonical after.tree after.workingDir write.path = write.path := by
    have hafter : ((pass c w.targets false).run before).2 = after :=
      congrArg Prod.snd hbuilt.compiled
    rw [← hafter, htargets]
    decide +kernel
  -- The source starts a rebuild.
  rcases hpass : (pass w.config w.targets w.optimized).run s with ⟨outcome, s₁⟩
  let m : Moment :=
    { session := s₁
      loop := { rebuilding := true, rebuilds := 1 }
      history := { arrived := [source], past := [⟨[source], 1⟩] }
      running := some outcome.toOption.isSome
      written := w.writes before ++ w.writes s }
  have hm : ReflTransGen (Step w) (w.start before s) m := by
    have htake : (({} : Loop).arrive source).take? w.watcher.scope =
        some { burst := some true } := by
      rw [hscope]
      decide +kernel
    exact ((ReflTransGen.single (.arrive _ source)).tail (.take rfl htake)).tail
      (.rebuild rfl rfl hpass)
  -- Then the watch is told of the bundle.
  let m' : Moment :=
    { m with
      loop := { rebuilds := 1 }
      history :=
        { arrived := [source, bundle], past := [⟨[source], 1⟩, ⟨[bundle], 0⟩]
          ends := [outcome.toOption.isSome] }
      running := none }
  have hm' : ReflTransGen (Step w) m m' := by
    have htake : ({ queue := [bundle], rebuilds := 1 } : Loop).take? w.watcher.scope =
        some { burst := some false, rebuilds := 1 } := by
      rw [hscope]
      decide +kernel
    exact (((ReflTransGen.single (.arrive m bundle)).tail (.finish rfl rfl)).tail
      (.take rfl htake)).tail (.pause rfl rfl)
  have hwritten : m'.written = [write, write] := by
    change w.writes before ++ w.writes s = _
    rw [hfirst, hsecond]
    rfl
  have hknown : Known after FileTree.pathOf m'.written := by
    rw [hwritten]
    intro _ hwrite
    obtain rfl : _ = write := by simpa using hwrite
    rw [hcanonical]
    decide +kernel
  have habout : ∀ signal ∈ m'.history.arrived.drop m.history.arrived.length,
      AboutBundles FileTree.pathOf m'.written signal := by
    rw [hwritten]
    intro signal hsignal
    obtain rfl : signal = bundle := List.mem_singleton.mp hsignal
    have hreported : FileTree.pathOf write.location = ⟨"/out.js"⟩ := by decide +kernel
    exact fun p hp => ⟨write, by simp, (List.mem_singleton.mp hp).trans hreported.symm⟩
  exact ⟨w, s, m, m', hbuild, hm, hm', rfl, rfl, rfl,
    hnone FileTree.pathOf m m m' hm .refl hm' hknown habout (Nat.le_refl 1)⟩

end Program.Watching

end ModuleBundler
