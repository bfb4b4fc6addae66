/-
# ModuleBundler.Proofs.Compile.Apart -- targets that keep apart

Every target reads a tree that the targets before it have written to. Where what is
written is none of what is read (`Apart`), this makes no difference: what a target gives,
and where it is written, is known from the first tree (`plan`), and a run of targets puts
their bundles there one after the other (`targets_run_of_planned`).

The step from one target to the next keeps the tree the same outside the destinations
(`Beside`). A run succeeds exactly if each of its targets has a plan.
-/

import ModuleBundler.Proofs.Compile.Run
import ModuleBundler.Proofs.Expansion.Stability

namespace ModuleBundler.Compile

open Expansion (WouldList)

/-! ## Reading beside what is written -/

section Reading

variable {c : Config} {t t' : FileTree} {workingDir : Location} {written : Location → Prop}

theorem readSource_eq_ok_iff {input : SourcePath} {file : SourceFile} :
    readSource t workingDir input = .ok file ↔
      t.readText workingDir input.location = .ok file.content ∧ file.path = input := by
  unfold readSource
  obtain ⟨path, content⟩ := file
  cases t.readText workingDir input.location with
  | error e => simp
  | ok text => simp [eq_comm, and_comm]

variable (h : t.SameOutside written t') (ht : t.Plain workingDir) (ht' : t'.Plain workingDir)
include h ht ht'

/-- Files away from what is written are bundled alike. -/
theorem bundled_eq_ok_iff (target : String) (o : Options) (b b' : Bundle)
    {inputs : List SourcePath}
    (hinputs : ∀ f ∈ inputs, ¬ written (f.location.place workingDir)) :
    bundled target o t' workingDir b inputs = .ok b' ↔
      bundled target o t workingDir b inputs = .ok b' := by
  induction inputs generalizing b with
  | nil => exact Iff.rfl
  | cons input rest ih =>
    have hrest := fun b => ih b fun f hf => hinputs f (List.mem_cons_of_mem _ hf)
    have hread (file : SourceFile) : readSource t' workingDir input = .ok file ↔
        readSource t workingDir input = .ok file := by
      rw [readSource_eq_ok_iff, readSource_eq_ok_iff,
        h.readText_eq_ok_iff ht ht' (hinputs input List.mem_cons_self)]
    unfold bundled
    cases hfile : readSource t workingDir input with
    | ok file =>
      rw [(hread file).mpr hfile]
      dsimp only
      rcases b.push o file with ⟨_ | _, pushed⟩
      · exact Iff.rfl
      · exact hrest pushed
    | error f =>
      cases hfile' : readSource t' workingDir input with
      | ok file => cases hfile.symm.trans ((hread file).mp hfile')
      | error f' => simp

/-- A target that would list nothing of what is written is prepared alike. -/
theorem prepared_eq_ok_iff {target : Target} {b : Bundle}
    (hunlisted : ∀ l, written l → ¬ WouldList t workingDir c.baseDir target.patterns l) :
    prepared c t' workingDir target = .ok b ↔ prepared c t workingDir target = .ok b := by
  unfold prepared
  rw [Expansion.expand_eq_of_sameOutside h ht ht' hunlisted]
  cases hexpand : Expansion.expand t workingDir c.baseDir target.patterns with
  | error f => exact Iff.rfl
  | ok inputs =>
    exact bundled_eq_ok_iff h ht ht' _ _ _ _ fun f hf =>
      Expansion.not_written_of_mem ht h.takes hunlisted hexpand hf

end Reading

/-! ## Writing where the directory is there -/

/-- The directory that a file goes to is there; the empty path stands for the working
directory. -/
def HasParent (t : FileTree) (workingDir : Location) (p : Path) : Prop :=
  ∀ parent, p.parent? = some parent →
    parent.text = "" ∨ (t.directory? workingDir parent).isSome = true

instance (t : FileTree) (workingDir : Location) (p : Path) : Decidable (HasParent t workingDir p) :=
  inferInstanceAs (Decidable (∀ parent, p.parent? = some parent →
    parent.text = "" ∨ (t.directory? workingDir parent).isSome = true))

theorem makeParent_of_hasParent {t : FileTree} {workingDir : Location} {p : Path}
    (ht : t.Plain workingDir) (hp : HasParent t workingDir p) :
    makeParent t workingDir p = (t, .ok ()) := by
  unfold makeParent
  cases hparent : p.parent? with
  | none => rfl
  | some parent =>
    have hmade : t.makeDirectories workingDir parent = (t, .ok ()) := by
      rcases hp parent hparent with hempty | hthere
      · have hfault : parent.fault? = some .notFound := by simp [Path.fault?, hempty]
        unfold FileTree.makeDirectories
        rw [hfault]
        cases parent.parents <;> simp [FileTree.makeDirectoriesUpTo, hempty]
      · obtain ⟨l, hl⟩ := Option.isSome_iff_exists.mp hthere
        exact ht.makeDirectories_of_directory hl
    simp only [hmade]
    rfl

/-- Writing a bundle is putting a file where the path leads, if it leads to where one can be. -/
theorem put_of_hasParent {t : FileTree} {workingDir : Location} {p : Path}
    (ht : t.Plain workingDir) (hp : HasParent t workingDir p) (content : String) :
    put t workingDir p content =
      match t.fileLocation workingDir p with
      | .ok l => (t.insert l (.file (.text content)), .ok ())
      | .error e => (t, .error ⟨["failed to write bundle to " ++ p.text], .io e⟩) := by
  unfold put
  rw [makeParent_of_hasParent ht hp]
  dsimp only
  rw [FileTree.writeFile]
  cases t.fileLocation workingDir p <;> rfl

/-! ## What a target gives -/

/-- What a target gives and where it is written, unless something is wrong with it. -/
def plan (c : Config) (t : FileTree) (workingDir : Location) (target : Target) :
    Option (Compiled × Location) :=
  match target.dest with
  | none => none
  | some dest =>
    match prepared c t workingDir target, t.fileLocation workingDir (c.resolvePath dest) with
    | .ok b, .ok l => some (compiledOf c target dest b, l)
    | _, _ => none

theorem plan_eq_some_iff {c : Config} {t : FileTree} {workingDir : Location} {target : Target}
    {r : Compiled} {l : Location} :
    plan c t workingDir target = some (r, l) ↔
      ∃ dest b, target.dest = some dest ∧ prepared c t workingDir target = .ok b ∧
        t.fileLocation workingDir (c.resolvePath dest) = .ok l ∧
        r = compiledOf c target dest b := by
  unfold plan
  cases hdest : target.dest with
  | none => simp
  | some dest =>
    cases hb : prepared c t workingDir target with
    | error f => simp
    | ok b =>
      cases hl : t.fileLocation workingDir (c.resolvePath dest) with
      | error e => simp [hl]
      | ok m => simp [hl, eq_comm, and_comm]

/-- The place that a target is written to. -/
def outputOf (c : Config) (workingDir : Location) (target : Target) : Option Location :=
  target.dest.map fun dest => (c.resolvePath dest).place workingDir

/-- The places that targets are written to. -/
def outputs (c : Config) (workingDir : Location) (ts : List Target) : List Location :=
  ts.filterMap (outputOf c workingDir)

theorem plan_outputOf {c : Config} {t : FileTree} {workingDir : Location} (ht : t.Plain workingDir)
    {target : Target} {r : Compiled} {l : Location}
    (h : plan c t workingDir target = some (r, l)) :
    outputOf c workingDir target = some l ∧ t.TakesFile l := by
  obtain ⟨dest, b, hdest, -, hlocation, -⟩ := plan_eq_some_iff.mp h
  refine ⟨?_, ht.takesFile hlocation⟩
  rw [outputOf, hdest, (ht.fileLocation_eq_ok_iff.mp hlocation).2.1]
  rfl

/-- Where the directory is there, compiling a target is carrying out its plan. -/
theorem target_run_of_plan {c : Config} {target : Target} {s : Session} {r : Compiled}
    {l : Location} (ht : s.tree.Plain s.workingDir)
    (hparent : ∀ dest, target.dest = some dest →
      HasParent s.tree s.workingDir (c.resolvePath dest))
    (hplan : plan c s.tree s.workingDir target = some (r, l)) :
    ∃ notices, (Compile.target c target).run s =
      (.ok r, { s with tree := s.tree.insert l (.file (.text r.content)), notices := notices }) := by
  obtain ⟨dest, b, hdest, hprepared, hlocation, rfl⟩ := plan_eq_some_iff.mp hplan
  obtain ⟨notices, hrun⟩ := target_run c hdest s
  have hput := put_of_hasParent ht (hparent dest hdest) b.content
  rw [hlocation] at hput
  rw [hprepared] at hrun
  dsimp only at hrun hput
  rw [hput] at hrun
  exact ⟨notices, hrun⟩

/-- A target without a plan fails. -/
theorem target_run_of_plan_eq_none {c : Config} {target : Target} {s : Session}
    (ht : s.tree.Plain s.workingDir) (hdest : target.dest ≠ none)
    (hparent : ∀ dest, target.dest = some dest →
      HasParent s.tree s.workingDir (c.resolvePath dest))
    (hplan : plan c s.tree s.workingDir target = none) :
    ∃ f s', (Compile.target c target).run s = (.error f, s') := by
  obtain ⟨dest, hdest⟩ := Option.ne_none_iff_exists'.mp hdest
  obtain ⟨notices, hrun⟩ := target_run c hdest s
  cases hprepared : prepared c s.tree s.workingDir target with
  | error f =>
    rw [hprepared] at hrun
    exact ⟨f, _, hrun⟩
  | ok b =>
    have hput := put_of_hasParent ht (hparent dest hdest) b.content
    cases hlocation : s.tree.fileLocation s.workingDir (c.resolvePath dest) with
    | error e =>
      rw [hlocation] at hput
      rw [hprepared] at hrun
      dsimp only at hrun hput
      rw [hput] at hrun
      exact ⟨_, _, hrun⟩
    | ok l =>
      have hsome := plan_eq_some_iff.mpr ⟨dest, b, hdest, hprepared, hlocation, rfl⟩
      cases hplan.symm.trans hsome

/-! ## Runs of targets that keep apart -/

/-- Targets keep apart: in a tree without links, the directories of their destinations are
there, and no destination is, or would be if it were there, among the inputs of a target. -/
structure Apart (c : Config) (s : Session) (ts : List Target) : Prop where
  plain : s.tree.Plain s.workingDir
  parents : ∀ target ∈ ts, ∀ dest, target.dest = some dest →
    HasParent s.tree s.workingDir (c.resolvePath dest)
  unlisted : ∀ target ∈ ts, ∀ l ∈ outputs c s.workingDir ts,
    ¬ WouldList s.tree s.workingDir c.baseDir target.patterns l

/-- A session that differs from the first in files that targets are written to. -/
structure Beside (c : Config) (s : Session) (ts : List Target) (s' : Session) : Prop where
  workingDir : s'.workingDir = s.workingDir
  plain : s'.tree.Plain s.workingDir
  same : s.tree.SameOutside (fun l => l ∈ outputs c s.workingDir ts ∧ s.tree.TakesFile l) s'.tree

/-- What a target plans in a session, looked at from the first tree. -/
abbrev planOf (c : Config) (s : Session) (target : Target) : Option (Compiled × Location) :=
  plan c s.tree s.workingDir target

section Run

variable {c : Config} {s s' : Session} {ts : List Target} (h : Apart c s ts)
include h

theorem Apart.beside : Beside c s ts s :=
  ⟨rfl, h.plain, .refl fun _ hl => hl.2⟩

/-- The plans of targets do not change when others are written. -/
theorem Apart.planOf_eq (hs' : Beside c s ts s') {target : Target} (htarget : target ∈ ts) :
    planOf c s' target = planOf c s target := by
  refine Option.ext fun ⟨r, l⟩ => ?_
  have hunlisted := fun l (hl : l ∈ outputs c s.workingDir ts ∧ s.tree.TakesFile l) =>
    h.unlisted target htarget l hl.1
  rw [planOf, planOf, plan_eq_some_iff, plan_eq_some_iff, hs'.workingDir]
  simp only [prepared_eq_ok_iff hs'.same h.plain hs'.plain hunlisted,
    hs'.same.fileLocation_eq_ok_iff h.plain hs'.plain]

theorem Apart.hasParent (hs' : Beside c s ts s') {target : Target} (htarget : target ∈ ts)
    (dest : Path) (hdest : target.dest = some dest) :
    HasParent s'.tree s'.workingDir (c.resolvePath dest) := by
  intro parent hparent
  rw [hs'.workingDir, hs'.same.directory?_eq h.plain hs'.plain]
  exact h.parents target htarget dest hdest parent hparent

/-- Compiling a target writes its bundle to its place. -/
theorem Apart.step (hs' : Beside c s ts s') {target : Target} (htarget : target ∈ ts)
    {r : Compiled} {l : Location} (hplan : planOf c s target = some (r, l)) :
    ∃ s'', (Compile.target c target).run s' = (.ok r, s'') ∧ Beside c s ts s'' ∧
      s''.tree.lookup = Function.update s'.tree.lookup l (some (.file (.text r.content))) := by
  obtain ⟨houtput, htakes⟩ := plan_outputOf h.plain hplan
  have hl : l ∈ outputs c s.workingDir ts ∧ s.tree.TakesFile l :=
    ⟨List.mem_filterMap.mpr ⟨target, htarget, houtput⟩, htakes⟩
  have htakes' := hs'.same.takes' l hl
  have hplain' : s'.tree.Plain s'.workingDir := hs'.workingDir ▸ hs'.plain
  obtain ⟨notices, hrun⟩ := target_run_of_plan hplain' (h.hasParent hs' htarget)
    ((h.planOf_eq hs' htarget).trans hplan)
  refine ⟨_, hrun, ⟨hs'.workingDir, hs'.plain.insert htakes' _, hs'.same.insert hl _⟩, ?_⟩
  funext m
  rw [FileTree.lookup_insert s'.tree m _ htakes'.ne_nil htakes'.named, Function.update_apply]

/-- The look-ups after bundles were written, one after the other. -/
def writtenTo (lookup : Location → Option Node) (plans : List (Compiled × Location)) :
    Location → Option Node :=
  plans.foldl (fun lookup plan => Function.update lookup plan.2
    (some (.file (.text plan.1.content)))) lookup

/-- Targets that all have plans carry them out, one after the other. -/
theorem Apart.targets_run_of_planned {us : List Target} (hus : us ⊆ ts)
    (hplanned : ∀ target ∈ us, target.dest ≠ none → planOf c s target ≠ none)
    (hs' : Beside c s ts s') :
    ∃ s'', (targets c us).run s' = (.ok ((us.filterMap (planOf c s)).map Prod.fst), s'') ∧
      Beside c s ts s'' ∧
      s''.tree.lookup = writtenTo s'.tree.lookup (us.filterMap (planOf c s)) := by
  induction us generalizing s' with
  | nil => exact ⟨s', rfl, hs', rfl⟩
  | cons target rest ih =>
    have htarget := hus List.mem_cons_self
    have hsub : rest ⊆ ts := fun u hu => hus (List.mem_cons_of_mem _ hu)
    have hrest : ∀ u ∈ rest, u.dest ≠ none → planOf c s u ≠ none :=
      fun u hu => hplanned u (List.mem_cons_of_mem _ hu)
    by_cases hdest : target.dest = none
    · have hnone : planOf c s target = none := by simp [planOf, plan, hdest]
      have hskipped : Beside c s ts
          { s' with notices := s'.notices ++ [.event (skippedEvent target)] } :=
        ⟨hs'.workingDir, hs'.plain, hs'.same⟩
      obtain ⟨s'', hrun, hbeside, hlookup⟩ := ih hsub hrest hskipped
      rw [targets_run_of_none c hdest, List.filterMap_cons_none hnone]
      exact ⟨s'', hrun, hbeside, hlookup⟩
    · obtain ⟨⟨r, l⟩, hplan⟩ :=
        Option.ne_none_iff_exists'.mp (hplanned target List.mem_cons_self hdest)
      obtain ⟨s₁, hrun₁, hbeside₁, hlookup₁⟩ := h.step hs' htarget hplan
      obtain ⟨s'', hrun, hbeside, hlookup⟩ := ih hsub hrest hbeside₁
      refine ⟨s'', ?_, hbeside, ?_⟩
      · rw [targets_run_of_ok c hdest rest hrun₁, hrun, List.filterMap_cons_some hplan]
        rfl
      · rw [hlookup, hlookup₁, List.filterMap_cons_some hplan]
        rfl

/-- Of targets that are compiled, each has a plan. -/
theorem Apart.planned_of_targets_run {us : List Target} (hus : us ⊆ ts)
    (hs' : Beside c s ts s') {results : List Compiled} {s'' : Session}
    (hrun : (targets c us).run s' = (.ok results, s'')) :
    ∀ target ∈ us, target.dest ≠ none → planOf c s target ≠ none := by
  induction us generalizing s' results s'' with
  | nil => simp
  | cons target rest ih =>
    have htarget := hus List.mem_cons_self
    have hsub : rest ⊆ ts := fun u hu => hus (List.mem_cons_of_mem _ hu)
    by_cases hdest : target.dest = none
    · rw [targets_run_of_none c hdest] at hrun
      have hskipped : Beside c s ts
          { s' with notices := s'.notices ++ [.event (skippedEvent target)] } :=
        ⟨hs'.workingDir, hs'.plain, hs'.same⟩
      have hrest := ih hsub hskipped hrun
      intro u hu hu'
      rcases List.mem_cons.mp hu with rfl | hmem
      · exact absurd hdest hu'
      · exact hrest u hmem hu'
    · cases hplan : planOf c s target with
      | none =>
        obtain ⟨f, s₁, hfailed⟩ := target_run_of_plan_eq_none (hs'.workingDir ▸ hs'.plain) hdest
          (h.hasParent hs' htarget) ((h.planOf_eq hs' htarget).trans hplan)
        rw [targets_run_of_error c hdest rest hfailed] at hrun
        cases hrun
      | some planned =>
        obtain ⟨r, l⟩ := planned
        obtain ⟨s₁, hrun₁, hbeside₁, -⟩ := h.step hs' htarget hplan
        rw [targets_run_of_ok c hdest rest hrun₁] at hrun
        cases hresults : ((targets c rest).run s₁).1 with
        | error f =>
          rw [hresults] at hrun
          cases hrun
        | ok rs =>
          have hrest := ih hsub hbeside₁ (Prod.ext hresults rfl)
          intro u hu hu'
          rcases List.mem_cons.mp hu with rfl | hmem
          · simp [hplan]
          · exact hrest u hmem hu'

end Run

end ModuleBundler.Compile
