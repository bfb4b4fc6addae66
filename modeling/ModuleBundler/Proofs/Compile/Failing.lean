/-
# ModuleBundler.Proofs.Compile.Failing -- what a target that fails leaves behind

A target fails before it writes if it cannot be prepared: its patterns cannot be expanded, or a
source cannot be read or named (`Unprepared`). Then the tree is left as the targets before it
made it, these targets are compiled as they would be without it, and the targets behind it do
nothing (`failing_target_writes_nothing`).

The only other failure is one of writing itself (`Unwritten`), when directories may have been
made.
-/

import ModuleBundler.Program
import ModuleBundler.Proofs.Bundle.Run
import ModuleBundler.Proofs.Compile.Effect

namespace ModuleBundler.Compile

/-! ## Why a target is not prepared -/

section Preparing

variable {c : Config} {t : FileTree} {workingDir : Location} {o : Options}

/-- A source that is read and that a bundle takes. -/
def Bundles (o : Options) (t : FileTree) (workingDir : Location) (input : SourcePath) : Prop :=
  ∃ text, t.readText workingDir input.location = .ok text ∧ ¬ Bundle.Unnamable o ⟨input, text⟩

/-- The first source that stops a bundle, and why it does. -/
inductive Unbundled (target : String) (o : Options) (t : FileTree) (workingDir : Location) :
    List SourcePath → Failure → Prop
  /-- The source is missing, or no text, or cannot be read for another reason. -/
  | unread {input : SourcePath} {rest : List SourcePath} {e : IoError} :
      t.readText workingDir input.location = .error e →
      Unbundled target o t workingDir (input :: rest)
        ⟨["failed to read source file " ++ input.location.text], .io e⟩
  | unnamed {input : SourcePath} {rest : List SourcePath} {text : String} :
      t.readText workingDir input.location = .ok text → Bundle.Unnamable o ⟨input, text⟩ →
      Unbundled target o t workingDir (input :: rest)
        ⟨["failed to compile target '" ++ target ++ "'"],
          .unnamedModule input.location ⟨o.root, input.display⟩⟩
  | later {input : SourcePath} {rest : List SourcePath} {f : Failure} :
      Bundles o t workingDir input → Unbundled target o t workingDir rest f →
      Unbundled target o t workingDir (input :: rest) f

/-- Why a target is not prepared. -/
inductive Unprepared (c : Config) (t : FileTree) (workingDir : Location) (target : Target) :
    Failure → Prop
  | unexpanded {f : Failure} :
      Expansion.expand t workingDir c.baseDir target.patterns = .error f →
      Unprepared c t workingDir target
        (f.within ("failed to expand inputs of target '" ++ target.name ++ "'"))
  | unbundled {inputs : List SourcePath} {f : Failure} :
      Expansion.expand t workingDir c.baseDir target.patterns = .ok inputs →
      Unbundled target.name (target.options c.bundle) t workingDir inputs f →
      Unprepared c t workingDir target f

theorem readSource_of_error {input : SourcePath} {e : IoError}
    (h : t.readText workingDir input.location = .error e) :
    readSource t workingDir input =
      .error ⟨["failed to read source file " ++ input.location.text], .io e⟩ := by
  rw [readSource, h]

theorem readSource_of_ok {input : SourcePath} {text : String}
    (h : t.readText workingDir input.location = .ok text) :
    readSource t workingDir input = .ok ⟨input, text⟩ := by
  rw [readSource, h]

theorem verdict_eq_error_iff {file : SourceFile} {e : RootMissing} :
    Bundle.verdict o file = .error e ↔
      Bundle.Unnamable o file ∧ e = ⟨o.root, file.path.display⟩ := by
  rw [← Bundle.contribution_eq_error_iff, Bundle.verdict]
  cases Bundle.contribution o file <;> simp [Except.map]

/-- What bundling one source comes to. -/
theorem bundled_cons (target : String) (b : Bundle) (input : SourcePath) (rest : List SourcePath) :
    bundled target o t workingDir b (input :: rest) =
      match readSource t workingDir input with
      | .error f => .error f
      | .ok file =>
        match Bundle.verdict o file with
        | .ok _ => bundled target o t workingDir (b.push o file).2 rest
        | .error e =>
          .error ⟨["failed to compile target '" ++ target ++ "'"],
            .unnamedModule input.location e⟩ := by
  rw [bundled]
  cases readSource t workingDir input with
  | error f => rfl
  | ok file =>
    dsimp only
    rw [← Bundle.push_fst b o file]
    rcases b.push o file with ⟨_ | _, pushed⟩ <;> rfl

/-- Sources are not bundled exactly when one of them stops the bundle. -/
theorem bundled_eq_error_iff (target : String) (b : Bundle) {inputs : List SourcePath}
    {f : Failure} :
    bundled target o t workingDir b inputs = .error f ↔
      Unbundled target o t workingDir inputs f := by
  constructor
  · intro h
    induction inputs generalizing b with
    | nil => cases h
    | cons input rest ih =>
      rw [bundled_cons] at h
      cases hread : t.readText workingDir input.location with
      | error e =>
        rw [readSource_of_error hread] at h
        obtain rfl := Except.error.inj h
        exact .unread hread
      | ok text =>
        rw [readSource_of_ok hread] at h
        dsimp only at h
        cases hverdict : Bundle.verdict o ⟨input, text⟩ with
        | error e =>
          rw [hverdict] at h
          obtain rfl := Except.error.inj h
          obtain ⟨hunnamable, rfl⟩ := verdict_eq_error_iff.mp hverdict
          exact .unnamed hread hunnamable
        | ok outcome =>
          rw [hverdict] at h
          refine .later ⟨text, hread, fun hunnamable => ?_⟩ (ih _ h)
          cases hverdict.symm.trans (verdict_eq_error_iff.mpr ⟨hunnamable, rfl⟩)
  · intro h
    induction h generalizing b with
    | unread hread => rw [bundled_cons, readSource_of_error hread]
    | unnamed hread hunnamable =>
      rw [bundled_cons, readSource_of_ok hread]
      dsimp only
      rw [verdict_eq_error_iff.mpr ⟨hunnamable, rfl⟩]
    | @later input _ _ hbundles _ ih =>
      obtain ⟨text, hread, hnamable⟩ := hbundles
      rw [bundled_cons, readSource_of_ok hread]
      dsimp only
      cases hverdict : Bundle.verdict o ⟨input, text⟩ with
      | error e => exact absurd (verdict_eq_error_iff.mp hverdict).1 hnamable
      | ok outcome => exact ih _

/-- The causes of a target that is not prepared. -/
theorem prepared_eq_error_iff {target : Target} {f : Failure} :
    prepared c t workingDir target = .error f ↔ Unprepared c t workingDir target f := by
  unfold prepared
  constructor
  · intro h
    split at h
    · next hexpand =>
      obtain rfl := Except.error.inj h
      exact .unexpanded hexpand
    · next hexpand => exact .unbundled hexpand ((bundled_eq_error_iff _ _).mp h)
  · rintro (hexpand | ⟨hexpand, hbundled⟩)
    · rw [hexpand]
    · rw [hexpand]
      exact (bundled_eq_error_iff _ _).mpr hbundled

/-- Why a bundle is not written. -/
inductive Unwritten (p : Path) : Failure → Prop
  | directory {parent : Path} {e : IoError} : p.parent? = some parent →
      Unwritten p ⟨["failed to create bundle directory: " ++ parent.text], .io e⟩
  | file {e : IoError} : Unwritten p ⟨["failed to write bundle to " ++ p.text], .io e⟩

theorem unwritten_of_makeParent {p : Path} {f : Failure}
    (h : (makeParent t workingDir p).2 = .error f) : Unwritten p f := by
  unfold makeParent at h
  split at h
  · cases h
  · next parent hparent =>
    rcases hmade : t.makeDirectories workingDir parent with ⟨made, e | done⟩
    · rw [hmade] at h
      obtain rfl := Except.error.inj h
      exact .directory hparent
    · rw [hmade] at h
      cases h

theorem unwritten_of_put {p : Path} {content : String} {f : Failure}
    (h : (put t workingDir p content).2 = .error f) : Unwritten p f := by
  unfold put at h
  rcases hmade : makeParent t workingDir p with ⟨made, f' | ⟨⟨⟩⟩⟩
  · rw [hmade] at h
    exact unwritten_of_makeParent ((congrArg Prod.snd hmade).trans h)
  · rw [hmade] at h
    dsimp only at h
    split at h
    · cases h
    · obtain rfl := Except.error.inj h
      exact .file

/-- Every source of a bundle is counted. -/
theorem files_of_bundled {target : String} {b b' : Bundle} {inputs : List SourcePath}
    (h : bundled target o t workingDir b inputs = .ok b') :
    b'.files = b.files + inputs.length := by
  induction inputs generalizing b with
  | nil =>
    obtain rfl := Except.ok.inj h
    rfl
  | cons input rest ih =>
    rw [bundled_cons] at h
    split at h
    · cases h
    · next file hfile =>
      split at h
      · rw [ih h, (Bundle.push_snd b o file).2.1, List.length_cons]
        omega
      · cases h

end Preparing

/-! ## Where a run stops -/

section Stopping

variable {c : Config} {s s' : Session} {ts : List Target}

/-- Targets behind others that are compiled run where these ended. -/
theorem targets_run_append {front : List Target} {results : List Compiled}
    (hfront : (targets c front).run s = (.ok results, s')) (rest : List Target) :
    (targets c (front ++ rest)).run s =
      (((targets c rest).run s').1.map (results ++ ·), ((targets c rest).run s').2) := by
  induction front generalizing s results with
  | nil =>
    obtain ⟨hresults, rfl⟩ := Prod.mk.inj hfront
    obtain rfl := Except.ok.inj hresults
    rw [List.nil_append]
    rcases (targets c rest).run s with ⟨_ | _, s''⟩ <;> rfl
  | cons target front ih =>
    by_cases hdest : target.dest = none
    · rw [targets_run_of_none c hdest] at hfront
      rw [List.cons_append, targets_run_of_none c hdest]
      exact ih hfront
    · rcases htarget : (Compile.target c target).run s with ⟨f | r, s₁⟩
      · rw [targets_run_of_error c hdest front htarget] at hfront
        cases hfront
      · rw [targets_run_of_ok c hdest front htarget] at hfront
        rw [List.cons_append, targets_run_of_ok c hdest _ htarget]
        rcases hmore : (targets c front).run s₁ with ⟨f | more, s₂⟩
        · rw [hmore] at hfront
          cases hfront
        · rw [hmore] at hfront
          obtain ⟨hresults, rfl⟩ := Prod.mk.inj hfront
          obtain rfl := Except.ok.inj hresults
          rw [ih hmore]
          rcases (targets c rest).run s₂ with ⟨_ | _, s''⟩ <;> rfl

/-- A run of targets that fails: `target` is the one that failed, the targets `front` before it
were compiled and led to the session `between`. -/
structure StoppedAt (c : Config) (s : Session) (ts : List Target) (f : Failure) (s' : Session)
    (front : List Target) (target : Target) (dest : Path) (between : Session) : Prop where
  /-- The target has a place in the list. -/
  listed : ∃ behind, ts = front ++ target :: behind
  /-- Only targets with a destination fail. -/
  hasDest : target.dest = some dest
  /-- The targets before it give what they give in front of any others, and those with a
  destination give a result. -/
  compiled : ∃ results, (targets c front).run s = (.ok results, between) ∧
    results.map (fun r => (r.target, r.output)) =
      front.filterMap (fun target =>
        target.dest.map fun dest => (target.name, c.resolvePath dest)) ∧
    ∀ rest, (targets c (front ++ rest)).run s =
      (((targets c rest).run between).1.map (results ++ ·), ((targets c rest).run between).2)
  /-- The run ends where this target failed; nothing is done for the targets behind it. -/
  failed : (Compile.target c target).run between = (.error f, s')
  /-- If the target was not prepared, nothing was written for it; otherwise writing failed. -/
  cause : (Unprepared c between.tree between.workingDir target f ∧ s'.tree = between.tree) ∨
    ∃ b, prepared c between.tree between.workingDir target = .ok b ∧
      put between.tree between.workingDir (c.resolvePath dest) b.content = (s'.tree, .error f) ∧
      Unwritten (c.resolvePath dest) f

/-- A target that fails was not prepared, or not written. -/
theorem cause_of_target_run {target : Target} {dest : Path} (hdest : target.dest = some dest)
    {f : Failure} (hrun : (Compile.target c target).run s = (.error f, s')) :
    (Unprepared c s.tree s.workingDir target f ∧ s'.tree = s.tree) ∨
      ∃ b, prepared c s.tree s.workingDir target = .ok b ∧
        put s.tree s.workingDir (c.resolvePath dest) b.content = (s'.tree, .error f) ∧
        Unwritten (c.resolvePath dest) f := by
  obtain ⟨notices, hrun'⟩ := target_run c hdest s
  rw [hrun] at hrun'
  cases hprepared : prepared c s.tree s.workingDir target with
  | error f' =>
    rw [hprepared] at hrun'
    obtain ⟨hf, rfl⟩ := Prod.mk.inj hrun'
    obtain rfl := Except.error.inj hf
    exact .inl ⟨prepared_eq_error_iff.mp hprepared, rfl⟩
  | ok b =>
    rw [hprepared] at hrun'
    refine .inr ⟨b, rfl, ?_⟩
    obtain ⟨hf, rfl⟩ := Prod.mk.inj hrun'
    rcases hput : put s.tree s.workingDir (c.resolvePath dest) b.content with ⟨t', f' | done⟩
    · rw [hput] at hf
      obtain rfl := Except.error.inj hf
      exact ⟨rfl, unwritten_of_put (congrArg Prod.snd hput)⟩
    · rw [hput] at hf
      cases hf

/-- In a run that fails, one target fails, and those before it are compiled. -/
theorem exists_failing {f : Failure} (hrun : (targets c ts).run s = (.error f, s')) :
    ∃ front target behind results between, ts = front ++ target :: behind ∧
      target.dest ≠ none ∧ (targets c front).run s = (.ok results, between) ∧
      (Compile.target c target).run between = (.error f, s') := by
  induction ts generalizing s with
  | nil => cases hrun
  | cons target rest ih =>
    by_cases hdest : target.dest = none
    · rw [targets_run_of_none c hdest] at hrun
      obtain ⟨front, failing, behind, results, between, rfl, hsome, hfront, hfailed⟩ := ih hrun
      refine ⟨target :: front, failing, behind, results, between, rfl, hsome, ?_, hfailed⟩
      rw [targets_run_of_none c hdest, hfront]
    · rcases htarget : (Compile.target c target).run s with ⟨f' | r, s₁⟩
      · rw [targets_run_of_error c hdest rest htarget] at hrun
        obtain ⟨hf, rfl⟩ := Prod.mk.inj hrun
        obtain rfl := Except.error.inj hf
        exact ⟨[], target, rest, [], s, rfl, hdest, rfl, htarget⟩
      · rw [targets_run_of_ok c hdest rest htarget] at hrun
        rcases hrest : (targets c rest).run s₁ with ⟨f' | more, s₂⟩
        · rw [hrest] at hrun
          obtain ⟨front, failing, behind, results, between, rfl, hsome, hfront, hfailed⟩ :=
            ih (hrest.trans hrun)
          refine ⟨target :: front, failing, behind, r :: results, between, rfl, hsome, ?_, hfailed⟩
          rw [targets_run_of_ok c hdest front htarget, hfront]
          rfl
        · rw [hrest] at hrun
          cases hrun

/-- A run that fails stopped at one of its targets. -/
theorem exists_stoppedAt {f : Failure} (hrun : (targets c ts).run s = (.error f, s')) :
    ∃ front target dest between, StoppedAt c s ts f s' front target dest between := by
  obtain ⟨front, target, behind, results, between, hts, hsome, hfront, hfailed⟩ :=
    exists_failing hrun
  obtain ⟨dest, hdest⟩ := Option.ne_none_iff_exists'.mp hsome
  exact ⟨front, target, dest, between, ⟨behind, hts⟩, hdest,
    ⟨results, hfront, results_of_targets_run hfront, targets_run_append hfront⟩, hfailed,
    cause_of_target_run hdest hfailed⟩

end Stopping

/-! ## All or nothing -/

/-- Sources that are bundled and written with success, in a tree without links. -/
theorem of_sources_run {name : String} {inputs : List SourcePath} {o : Options} {output : Path}
    {s s' : Session} {r : Compiled} (ht : s.tree.Plain s.workingDir)
    (hrun : (sources name inputs o output).run s = (.ok r, s')) :
    r.output = output ∧ r.files = inputs.length ∧
      s'.tree.readText s.workingDir output = .ok r.content ∧
      FileTree.Wrote [output.place s.workingDir] s.tree s'.tree := by
  obtain ⟨notices, hrun'⟩ := sources_run name inputs o output s
  rw [hrun] at hrun'
  cases hb : bundled name o s.tree s.workingDir {} inputs with
  | error f =>
    rw [hb] at hrun'
    cases (Prod.mk.inj hrun').1
  | ok b =>
    rw [hb] at hrun'
    obtain ⟨hr, rfl⟩ := Prod.mk.inj hrun'
    cases hput : (put s.tree s.workingDir output b.content).2 with
    | error f =>
      rw [hput] at hr
      cases hr
    | ok done =>
      rw [hput] at hr
      obtain rfl := Except.ok.inj hr
      exact ⟨rfl, by simpa using files_of_bundled hb, put_of_plain ht hput⟩

/-- **A target that fails writes nothing.**
* If a run of targets fails, it stopped at one target. Unless this target failed in writing, the
  tree is the one that the targets before it left: nothing was written or made for it. The
  targets before it give what they give in front of any others, and those behind it did nothing.
* Targets without a destination change nothing: the outcome and the tree are those of the other
  targets.
* Where sources are bundled and written with success, in a tree without links, the output holds
  the content of the result, every source is counted, and nothing else changed but for
  directories that are new.
* A build whose targets cannot be selected changes nothing. -/
theorem failing_target_writes_nothing (c : Config) :
    (∀ ts s f s', (targets c ts).run s = (.error f, s') →
      ∃ front target dest between, StoppedAt c s ts f s' front target dest between) ∧
    (∀ ts s, ((targets c ts).run s).1 = ((targets c (ts.filter (·.dest.isSome))).run s).1 ∧
      ((targets c ts).run s).2.tree = ((targets c (ts.filter (·.dest.isSome))).run s).2.tree) ∧
    (∀ name inputs o output s r s', s.tree.Plain s.workingDir →
      (sources name inputs o output).run s = (.ok r, s') →
      r.output = output ∧ r.files = inputs.length ∧
        s'.tree.readText s.workingDir output = .ok r.content ∧
        FileTree.Wrote [output.place s.workingDir] s.tree s'.tree) ∧
    ∀ (request : CommandLine.BuildRequest) e s,
      Target.select c.bundle request.targets request.exclude = .error e →
      (Program.build c request).run s = (.error ⟨[], .config e⟩, s) := by
  refine ⟨fun _ _ _ _ hrun => exists_stoppedAt hrun, fun ts s => ?_,
    fun _ _ _ _ _ _ _ ht hrun => of_sources_run ht hrun, fun request e s hselect => ?_⟩
  · obtain ⟨_, hrun⟩ := targets_run c ts s
    obtain ⟨_, hrun'⟩ := targets_run c (ts.filter (·.dest.isSome)) s
    rw [hrun, hrun', effects_filter]
    exact ⟨rfl, rfl⟩
  · rw [Program.build, hselect]
    exact Job.run_fail _ s

/-- The third of four targets has a source that is no text, behind one that was read. The first
target was written, and nothing is there of the third. -/
theorem failing_target_writes_nothing_unreadable :
    let file (text : String) : Node := .file (.text text)
    let s : Session :=
      { tree :=
          { entries := [(["a.js"], file "a();\n"), (["bad.js"], .file (.binary [255])),
              (["old.js"], file "")] } }
    let c : Config := { baseDir := ⟨"/"⟩ }
    let one : Target := ⟨"one", ["a.js"], some ⟨"one/a.js"⟩, {}⟩
    let two : Target := ⟨"two", ["*.js"], none, {}⟩
    let three : Target := ⟨"three", ["a.js", "bad.js"], some ⟨"three/a.js"⟩, {}⟩
    let four : Target := ⟨"four", ["a.js"], some ⟨"old.js"⟩, {}⟩
    let a : SourcePath := ⟨"a.js", ⟨"/a.js"⟩⟩
    let ts : List Target := [one, two, three, four]
    let failure : Failure := ⟨["failed to read source file /bad.js"], .io .invalidData⟩
    (∃ s' front target dest between, (targets c ts).run s = (.error failure, s') ∧
      StoppedAt c s ts failure s' front target dest between ∧
      s'.tree.lookup ["one", "a.js"] = some (file "a();\n\n") ∧ s'.tree.lookup ["three"] = none ∧
      s'.tree.lookup ["old.js"] = some (file "")) ∧
    (∃ r s', (sources "one" [a, a] {} ⟨"/new/one.js"⟩).run s = (.ok r, s') ∧ r.files = 2 ∧
      s'.tree.readText [] ⟨"/new/one.js"⟩ = .ok r.content) ∧
    (Program.build c { targets := ["five"] }).run s =
      (.error ⟨[], .config (.unknownTarget "five")⟩, s) := by
  intro file s c one two three four a ts failure
  have hplain : s.tree.Plain s.workingDir :=
    FileTree.plain_of_entries (by decide +kernel) (FileTree.lookup_nil _)
  obtain ⟨hstops, -, hwritten, hselect⟩ := failing_target_writes_nothing c
  refine ⟨?_, ?_, hselect _ _ s (by decide +kernel)⟩
  · have hfails : ((targets c ts).run s).1 = .error failure := by decide +kernel
    have hrun : (targets c ts).run s = (.error failure, ((targets c ts).run s).2) :=
      Prod.ext hfails rfl
    obtain ⟨front, target, dest, between, hstopped⟩ := hstops ts s failure _ hrun
    exact ⟨_, front, target, dest, between, hrun, hstopped, by decide +kernel, by decide +kernel,
      by decide +kernel⟩
  · have hsucceeds :
        ((sources "one" [a, a] {} ⟨"/new/one.js"⟩).run s).1.toOption.isSome = true := by
      decide +kernel
    obtain ⟨r, hrun⟩ := Job.exists_of_isSome hsucceeds
    obtain ⟨-, hfiles, hread, -⟩ := hwritten _ _ _ _ s r _ hplain hrun
    exact ⟨r, _, hrun, hfiles, hread⟩

end ModuleBundler.Compile
