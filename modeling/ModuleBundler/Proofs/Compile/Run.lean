/-
# ModuleBundler.Proofs.Compile.Run -- what compiling does to a session

Compiling reads the tree, reports, and writes at the end. Reading and bundling are
functions of the tree alone (`bundled`, `prepared`), and so is writing (`put`). This
module says that running is these functions one after the other, so that what follows
can speak of trees and leave reports aside.

Nothing is written before everything was read and named (`target_run`).
-/

import ModuleBundler.Compile
import ModuleBundler.Proofs.Job

namespace ModuleBundler.Compile

/-! ## Reading -/

/-- What bundling source files of a tree gives. -/
def bundled (target : String) (o : Options) (t : FileTree) (workingDir : Location) :
    Bundle → List SourcePath → Except Failure Bundle
  | b, [] => .ok b
  | b, input :: rest =>
    match readSource t workingDir input with
    | .error f => .error f
    | .ok file =>
      match b.push o file with
      | (.ok _, b) => bundled target o t workingDir b rest
      | (.error e, _) =>
        .error ⟨["failed to compile target '" ++ target ++ "'"], .unnamedModule input.location e⟩

/-- The bundle of a target, before it is written. -/
def prepared (c : Config) (t : FileTree) (workingDir : Location) (target : Target) :
    Except Failure Bundle :=
  match Expansion.expand t workingDir c.baseDir target.patterns with
  | .error f => .error (f.within ("failed to expand inputs of target '" ++ target.name ++ "'"))
  | .ok inputs => bundled target.name (target.options c.bundle) t workingDir {} inputs

/-- Bundling reads and reports. -/
theorem bundleSources_run (target : String) (o : Options) (b : Bundle) (inputs : List SourcePath)
    (s : Session) :
    ∃ notices, (bundleSources target o b inputs).run s =
      (bundled target o s.tree s.workingDir b inputs, { s with notices := notices }) := by
  induction inputs generalizing b s with
  | nil => exact ⟨s.notices, rfl⟩
  | cons input rest ih =>
    rw [bundleSources, bundled, Job.run_bind_of_ok (Job.run_get s)]
    cases hread : readSource s.tree s.workingDir input with
    | error f =>
      rw [Job.run_bind_of_error (Job.run_ofExcept _ _)]
      exact ⟨s.notices, rfl⟩
    | ok file =>
      rw [Job.run_bind_of_ok (Job.run_ofExcept _ _),
        Job.run_bind_of_ok (Job.run_forM_report _ _)]
      dsimp only
      rcases b.push o file with ⟨_ | _, b'⟩
      · exact ⟨_, rfl⟩
      · exact ih b' { s with notices := s.notices ++ (b.pushEvents o file).map .event }

/-- Expanding the patterns of a target reads and reports. -/
theorem inputsOf_run (c : Config) (target : Target) (s : Session) :
    ∃ notices, (inputsOf c target).run s =
      (withContext ("failed to expand inputs of target '" ++ target.name ++ "'")
        (Expansion.expand s.tree s.workingDir c.baseDir target.patterns),
        { s with notices := notices }) := by
  rw [inputsOf, Job.run_bind_of_ok (Job.run_get s), Job.run_bind_of_ok (Job.run_forM_report _ _)]
  exact ⟨_, Job.run_ofExcept _ _⟩

/-! ## Writing -/

/-- Writes a bundle into a tree, and makes the directories that it needs. -/
def put (t : FileTree) (workingDir : Location) (p : Path) (content : String) :
    FileTree × Except Failure Unit :=
  match makeParent t workingDir p with
  | (made, .error f) => (made, .error f)
  | (made, .ok ()) =>
    match made.writeFile workingDir p (.text content) with
    | .ok written => (written, .ok ())
    | .error e => (made, .error ⟨["failed to write bundle to " ++ p.text], .io e⟩)

theorem writeBundle_run (p : Path) (content : String) (s : Session) :
    (writeBundle p content).run s =
      ((put s.tree s.workingDir p content).2,
        { s with tree := (put s.tree s.workingDir p content).1 }) := by
  rw [writeBundle, Job.run_bind_of_ok (Job.run_get s), put]
  rcases hmade : makeParent s.tree s.workingDir p with ⟨made, _ | ⟨⟨⟩⟩⟩
  · simp only
    rw [Job.run_bind_of_ok (Job.run_set _ _), Job.run_bind_of_error (Job.run_ofExcept _ _)]
  · simp only
    rw [Job.run_bind_of_ok (Job.run_set _ _), Job.run_bind_of_ok (Job.run_ofExcept _ _)]
    cases made.writeFile s.workingDir p (.text content) <;> rfl

/-! ## Targets -/

/-- Sources are bundled first; only then something is written. -/
theorem sources_run (target : String) (inputs : List SourcePath) (o : Options) (output : Path)
    (s : Session) :
    ∃ notices, (sources target inputs o output).run s =
      match bundled target o s.tree s.workingDir {} inputs with
      | .error f => (.error f, { s with notices := notices })
      | .ok b =>
        ((put s.tree s.workingDir output b.content).2.map fun _ =>
            ⟨target, output, b.content, b.files, b.modules⟩,
          { s with
            tree := (put s.tree s.workingDir output b.content).1
            notices := notices }) := by
  obtain ⟨n, hbundled⟩ := bundleSources_run target o {} inputs s
  rw [sources]
  cases hb : bundled target o s.tree s.workingDir {} inputs with
  | error f =>
    rw [hb] at hbundled
    exact ⟨n, Job.run_bind_of_error hbundled _⟩
  | ok b =>
    rw [hb] at hbundled
    rw [Job.run_bind_of_ok hbundled, Job.run_bind, writeBundle_run]
    simp only
    rcases put s.tree s.workingDir output b.content with ⟨tree, _ | _⟩
    · exact ⟨_, rfl⟩
    · exact ⟨_, rfl⟩

/-- What a written bundle is reported as. -/
def compiledOf (c : Config) (target : Target) (dest : Path) (b : Bundle) : Compiled :=
  ⟨target.name, c.resolvePath dest, b.content, b.files, b.modules⟩

/-- A target is prepared first; only then something is written. -/
theorem target_run (c : Config) {target : Target} {dest : Path} (hdest : target.dest = some dest)
    (s : Session) :
    ∃ notices, (Compile.target c target).run s =
      match prepared c s.tree s.workingDir target with
      | .error f => (.error f, { s with notices := notices })
      | .ok b =>
        ((put s.tree s.workingDir (c.resolvePath dest) b.content).2.map fun _ =>
            compiledOf c target dest b,
          { s with
            tree := (put s.tree s.workingDir (c.resolvePath dest) b.content).1
            notices := notices }) := by
  obtain ⟨n, hinputs⟩ := inputsOf_run c target s
  rw [Compile.target, hdest, prepared]
  simp only
  cases hexpand : Expansion.expand s.tree s.workingDir c.baseDir target.patterns with
  | error f =>
    rw [hexpand] at hinputs
    exact ⟨n, Job.run_bind_of_error hinputs _⟩
  | ok inputs =>
    rw [hexpand] at hinputs
    rw [Job.run_bind_of_ok hinputs]
    exact sources_run target.name inputs (target.options c.bundle) (c.resolvePath dest)
      { s with notices := n }

/-! ## Lists of targets -/

/-- A target without a destination is passed over. -/
theorem targets_run_of_none (c : Config) {target : Target} (hdest : target.dest = none)
    (rest : List Target) (s : Session) :
    (targets c (target :: rest)).run s =
      (targets c rest).run { s with notices := s.notices ++ [.event (skippedEvent target)] } := by
  rw [targets, if_pos (by simp [hdest]), Job.run_bind_of_ok (Job.run_report _ _)]

/-- A target that is compiled stands before what the others give. -/
theorem targets_run_of_ok (c : Config) {target : Target} (hdest : target.dest ≠ none)
    (rest : List Target) {s s' : Session} {r : Compiled}
    (hrun : (Compile.target c target).run s = (.ok r, s')) :
    (targets c (target :: rest)).run s =
      (((targets c rest).run s').1.map (r :: ·), ((targets c rest).run s').2) := by
  rw [targets, if_neg (by simpa using hdest), Job.run_bind_of_ok hrun, Job.run_bind]
  rcases (targets c rest).run s' with ⟨_ | results, s''⟩ <;> rfl

/-- A target that fails ends the run. -/
theorem targets_run_of_error (c : Config) {target : Target} (hdest : target.dest ≠ none)
    (rest : List Target) {s s' : Session} {f : Failure}
    (hrun : (Compile.target c target).run s = (.error f, s')) :
    (targets c (target :: rest)).run s = (.error f, s') := by
  rw [targets, if_neg (by simpa using hdest), Job.run_bind_of_error hrun]

end ModuleBundler.Compile
