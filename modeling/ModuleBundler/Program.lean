/-
# ModuleBundler.Program -- the commands of the program

Every command first loads the configuration. `build` selects the targets, runs a
pass over them, and on demand watches the base directory and runs a pass after
every change. A pass compiles, reports, and then compresses what it compiled; a
compress section that is missing is reported and stops nothing.
-/

import ModuleBundler.CommandLine.Invocation
import ModuleBundler.Compress
import ModuleBundler.Config.Load
import ModuleBundler.Report
import ModuleBundler.Watch.Start

namespace ModuleBundler.Program

/-! ## A pass -/

/-- The event that reports that nothing is compressed. -/
def skippedEvent (e : ConfigError) : Log.Event :=
  ⟨.error, .commandLine, e.message ++ "; skipping compression", []⟩

/-- The tasks for the bundles that were compiled. -/
def tasksFor (tasks : List Compress.Task) (results : List Compiled) : List Compress.Task :=
  tasks.filter fun task => results.any fun result => result.target == task.name

/-- Compresses the bundles that were compiled, one after the other. -/
def compressOutputs (c : Config) (tasks : List Compress.Task) (results : List Compiled) :
    Job Unit := do
  match c.compress with
  | none => return
  | some section_ =>
    match Compress.Compressor.ofSection section_ c.baseDir with
    | .error e => Job.fail ⟨[], .config e⟩
    | .ok compressor => (tasksFor tasks results).forM compressor.run

/-- Compiles targets, reports them, and compresses them if that was asked for. -/
def pass (c : Config) (targets : List Target) (optimized : Bool) : Job (List Compiled) := do
  let results ← Compile.targets c targets
  Job.print (Report.compiled results)
  (Compress.planEvents c optimized).forM Job.report
  match Compress.plan c optimized with
  | .ok tasks => if optimized then compressOutputs c tasks results
  | .error e => Job.report (skippedEvent e)
  return results

/-! ## Commands -/

/-- A build that goes on watching. -/
structure Watching where
  config : Config
  targets : List Target
  optimized : Bool
  watcher : Watch.Watcher

/-- Builds targets; the result is the watch, if one was asked for. -/
def build (c : Config) (request : CommandLine.BuildRequest) : Job (Option Watching) := do
  match Target.select c.bundle request.targets request.exclude with
  | .error e => Job.fail ⟨[], .config e⟩
  | .ok selected => do
    let results ← pass c selected request.optimized
    if request.watch then
      let watcher ← Watch.start c.baseDir (results.map Compiled.output)
      return some ⟨c, selected, request.optimized, watcher⟩
    else return none

/-- Does what the program is asked to do. -/
def run (i : CommandLine.Invocation) : Job (Option Watching) := do
  match i.request with
  | .completions _ => return none
  | request => do
    let c ← Config.load (i.config.map Path.mk)
    match request with
    | .build request => build c request
    | .targets => do
      Job.print (Report.targets c.bundle (Target.all c.bundle))
      return none
    | .compressConfig => do
      (Compress.tasksEvents c.bundle).forM Job.report
      Job.print ((Compress.fragment (Compress.tasks c.bundle)).pretty ++ "\n")
      return none
    | .completions _ => return none

/-! ## Watching -/

/-- The changes of a burst, made back to back, and what the program does about
them: a relevant burst makes one pass, and a pass that fails is reported. -/
def Watching.burst (w : Watching) (base : Location) (changes : List Change) :
    StateM Session Watching := do
  let (watcher, relevant) ← w.watcher.observe base changes
  if relevant then
    let before := (← get).tree
    match ← (pass w.config w.targets w.optimized).run with
    | .ok _ => pure ()
    | .error f => do
      let _ ← (Job.report (Watch.failedEvent f.messages)).run
    return { w with watcher := watcher.rebuilt before (← get).tree }
  else return { w with watcher := watcher }

end ModuleBundler.Program
