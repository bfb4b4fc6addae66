/-
# ModuleBundler.Proofs.Compile.Effect -- what compiling leaves behind

Reports aside, compiling targets is a function of the tree (`effects`): it gives an outcome,
the tree that is left, and the files that were written on the way, each with the path that was
asked for and the location that this path led to. The files are destinations of targets in the
list (`effects_paths`), and nothing else is in the tree that was not there before but for
directories (`effects_wrote`). This holds whether the run succeeds or fails, for any paths, and
with links in the tree.

A run that succeeds gives one result for each target with a destination, in order, and writes
one file for each result (`effects_ok`).
-/

import ModuleBundler.Proofs.Compile.Run
import ModuleBundler.Proofs.FileTree.Written

namespace ModuleBundler.Compile

open FileTree (Wrote)

/-! ## Writing a bundle -/

/-- A file that was written: the path that it was written to, and where this path led. -/
structure FileWrite where
  path : Path
  location : Location
  deriving DecidableEq, Repr

/-- The file that is written for a bundle, if it comes to that. -/
def fileWrite? (t : FileTree) (workingDir : Location) (p : Path) : Option FileWrite :=
  match makeParent t workingDir p with
  | (_, .error _) => none
  | (made, .ok ()) => (made.fileLocation workingDir p).toOption.map (⟨p, ·⟩)

section Put

variable {t : FileTree} {workingDir : Location} {p : Path} {content : String}

theorem makeParent_wrote (t : FileTree) (workingDir : Location) (p : Path) :
    Wrote [] t (makeParent t workingDir p).1 := by
  unfold makeParent
  split
  · exact .refl t
  · exact .makeDirectories t workingDir _

theorem makeParent_plain (ht : t.Plain workingDir) (p : Path) :
    (makeParent t workingDir p).1.Plain workingDir := by
  unfold makeParent
  split
  · exact ht
  · exact ht.makeDirectories _

theorem fileWrite?_path {w : FileWrite} (h : w ∈ fileWrite? t workingDir p) : w.path = p := by
  unfold fileWrite? at h
  split at h
  · cases h
  · obtain ⟨l, -, rfl⟩ := Option.map_eq_some_iff.mp h
    rfl

/-- Directories are made first. Then the file is written, or nothing more is done. -/
theorem put_cases (t : FileTree) (workingDir : Location) (p : Path) (content : String) :
    (∃ f, put t workingDir p content = ((makeParent t workingDir p).1, .error f) ∧
      fileWrite? t workingDir p = none) ∨
    ∃ l, (makeParent t workingDir p).1.fileLocation workingDir p = .ok l ∧
      put t workingDir p content =
        ((makeParent t workingDir p).1.insert l (.file (.text content)), .ok ()) ∧
      fileWrite? t workingDir p = some ⟨p, l⟩ := by
  unfold put fileWrite?
  rcases makeParent t workingDir p with ⟨made, f | ⟨⟨⟩⟩⟩
  · exact .inl ⟨f, rfl, rfl⟩
  · dsimp only
    rw [FileTree.writeFile]
    cases hlocation : made.fileLocation workingDir p with
    | error e => exact .inl ⟨_, rfl, rfl⟩
    | ok l => exact .inr ⟨l, rfl, rfl, rfl⟩

/-- Writing a bundle writes one file at most, and makes directories. -/
theorem put_wrote (t : FileTree) (workingDir : Location) (p : Path) (content : String) :
    Wrote ((fileWrite? t workingDir p).toList.map FileWrite.location) t
      (put t workingDir p content).1 := by
  have hparent := makeParent_wrote t workingDir p
  rcases put_cases t workingDir p content with ⟨f, hput, hwrite⟩ | ⟨l, hlocation, hput, hwrite⟩
  · rw [hput, hwrite]
    exact hparent
  · rw [hput, hwrite]
    exact hparent.trans (.insert_file hlocation _)

/-- A bundle that is written is written to its path. -/
theorem map_path_of_put (h : (put t workingDir p content).2 = .ok ()) :
    (fileWrite? t workingDir p).toList.map FileWrite.path = [p] := by
  rcases put_cases t workingDir p content with ⟨f, hput, -⟩ | ⟨l, -, -, hwrite⟩
  · rw [hput] at h
    cases h
  · rw [hwrite]
    rfl

/-- In a tree without links, a bundle that was written is read back, and it is the only file
that was written. -/
theorem put_of_plain (ht : t.Plain workingDir) (h : (put t workingDir p content).2 = .ok ()) :
    (put t workingDir p content).1.readText workingDir p = .ok content ∧
      Wrote [p.place workingDir] t (put t workingDir p content).1 := by
  have hplain := makeParent_plain ht p
  have hwrote := put_wrote t workingDir p content
  rcases put_cases t workingDir p content with ⟨f, hput, -⟩ | ⟨l, hlocation, hput, hwrite⟩
  · rw [hput] at h
    cases h
  · rw [hwrite] at hwrote
    rw [← (hplain.fileLocation_eq_ok_iff.mp hlocation).2.1]
    refine ⟨?_, hwrote⟩
    rw [hput]
    exact hplain.readText_insert hlocation content

end Put

/-! ## Compiling a target -/

/-- What compiling comes to. -/
structure Effect (α : Type) where
  outcome : Except Failure α
  tree : FileTree
  /-- The files that were written, in order. -/
  writes : List FileWrite

section Target

variable {c : Config} {workingDir : Location} {t : FileTree} {target : Target} {dest : Path}

/-- What compiling a target with a destination comes to. -/
def effectOf (c : Config) (workingDir : Location) (t : FileTree) (target : Target)
    (dest : Path) : Effect Compiled :=
  match prepared c t workingDir target with
  | .error f => ⟨.error f, t, []⟩
  | .ok b =>
    ⟨(put t workingDir (c.resolvePath dest) b.content).2.map fun _ => compiledOf c target dest b,
      (put t workingDir (c.resolvePath dest) b.content).1,
      (fileWrite? t workingDir (c.resolvePath dest)).toList⟩

theorem target_run_effect (c : Config) (hdest : target.dest = some dest) (s : Session) :
    ∃ notices, (Compile.target c target).run s =
      ((effectOf c s.workingDir s.tree target dest).outcome,
        { s with
          tree := (effectOf c s.workingDir s.tree target dest).tree
          notices := notices }) := by
  obtain ⟨n, hrun⟩ := target_run c hdest s
  rw [hrun, effectOf]
  cases prepared c s.tree s.workingDir target <;> exact ⟨n, rfl⟩

theorem effectOf_wrote :
    Wrote ((effectOf c workingDir t target dest).writes.map FileWrite.location) t
      (effectOf c workingDir t target dest).tree := by
  unfold effectOf
  split
  · exact .refl t
  · exact put_wrote t workingDir _ _

/-- Only the destination of the target is written. -/
theorem effectOf_path {w : FileWrite} (hw : w ∈ (effectOf c workingDir t target dest).writes) :
    w.path = c.resolvePath dest := by
  unfold effectOf at hw
  split at hw
  · cases hw
  · exact fileWrite?_path (Option.mem_toList.mp hw)

/-- A target that is compiled gives its result, and its file was written. -/
theorem effectOf_ok {r : Compiled} (h : (effectOf c workingDir t target dest).outcome = .ok r) :
    r.target = target.name ∧ r.output = c.resolvePath dest ∧
      (effectOf c workingDir t target dest).writes.map FileWrite.path = [c.resolvePath dest] := by
  unfold effectOf at h ⊢
  split at h
  · cases h
  · next b hb =>
    dsimp only at h ⊢
    cases hput : (put t workingDir (c.resolvePath dest) b.content).2 with
    | error f =>
      rw [hput] at h
      cases h
    | ok done =>
      rw [hput] at h
      obtain rfl := Except.ok.inj h
      exact ⟨rfl, rfl, map_path_of_put hput⟩

end Target

/-! ## Compiling targets -/

/-- A target that is compiled before others. -/
def Effect.before (first : Effect Compiled) (next : FileTree → Effect (List Compiled)) :
    Effect (List Compiled) :=
  match first.outcome with
  | .error f => ⟨.error f, first.tree, first.writes⟩
  | .ok r =>
    ⟨(next first.tree).outcome.map (r :: ·), (next first.tree).tree,
      first.writes ++ (next first.tree).writes⟩

/-- What compiling targets comes to, one after the other. -/
def effects (c : Config) (workingDir : Location) : FileTree → List Target → Effect (List Compiled)
  | t, [] => ⟨.ok [], t, []⟩
  | t, target :: rest =>
    match target.dest with
    | none => effects c workingDir t rest
    | some dest =>
      (effectOf c workingDir t target dest).before fun t' => effects c workingDir t' rest

section Targets

variable {c : Config} {workingDir : Location} {t : FileTree} {target : Target}

theorem effects_of_none (hdest : target.dest = none) (rest : List Target) :
    effects c workingDir t (target :: rest) = effects c workingDir t rest := by
  rw [effects, hdest]

theorem effects_of_some {dest : Path} (hdest : target.dest = some dest) (rest : List Target) :
    effects c workingDir t (target :: rest) =
      (effectOf c workingDir t target dest).before fun t' => effects c workingDir t' rest := by
  rw [effects, hdest]

/-- Compiling targets changes the tree and reports. -/
theorem targets_run (c : Config) (ts : List Target) (s : Session) :
    ∃ notices, (targets c ts).run s =
      ((effects c s.workingDir s.tree ts).outcome,
        { s with tree := (effects c s.workingDir s.tree ts).tree, notices := notices }) := by
  induction ts generalizing s with
  | nil => exact ⟨s.notices, rfl⟩
  | cons target rest ih =>
    cases hdest : target.dest with
    | none =>
      rw [targets_run_of_none c hdest, effects_of_none hdest]
      exact ih _
    | some dest =>
      have hsome : target.dest ≠ none := by simp [hdest]
      obtain ⟨n, hrun⟩ := target_run_effect c hdest s
      rw [effects_of_some hdest, Effect.before]
      cases hfirst : (effectOf c s.workingDir s.tree target dest).outcome with
      | error f =>
        rw [hfirst] at hrun
        exact ⟨n, targets_run_of_error c hsome rest hrun⟩
      | ok r =>
        rw [hfirst] at hrun
        obtain ⟨n', hrest⟩ := ih
          { s with tree := (effectOf c s.workingDir s.tree target dest).tree, notices := n }
        exact ⟨n', by rw [targets_run_of_ok c hsome rest hrun, hrest]⟩

/-- Targets without a destination make no difference. -/
theorem effects_filter (t : FileTree) (ts : List Target) :
    effects c workingDir t (ts.filter (·.dest.isSome)) = effects c workingDir t ts := by
  induction ts generalizing t with
  | nil => rfl
  | cons target rest ih =>
    cases hdest : target.dest with
    | none => rw [List.filter_cons_of_neg (by simp [hdest]), ih, effects_of_none hdest]
    | some dest =>
      rw [List.filter_cons_of_pos (by simp [hdest]), effects_of_some hdest, effects_of_some hdest]
      simp only [ih]

/-- Every file that is written is the destination of a target of the list. -/
theorem effects_paths {ts : List Target} {w : FileWrite}
    (hw : w ∈ (effects c workingDir t ts).writes) :
    ∃ target ∈ ts, ∃ dest, target.dest = some dest ∧ w.path = c.resolvePath dest := by
  induction ts generalizing t with
  | nil => cases hw
  | cons target rest ih =>
    have hlater (t' : FileTree) (hw : w ∈ (effects c workingDir t' rest).writes) :
        ∃ target' ∈ target :: rest, ∃ dest, target'.dest = some dest ∧
          w.path = c.resolvePath dest := by
      obtain ⟨target', hmem, hdest⟩ := ih hw
      exact ⟨target', List.mem_cons_of_mem _ hmem, hdest⟩
    cases hdest : target.dest with
    | none =>
      rw [effects_of_none hdest] at hw
      exact hlater t hw
    | some dest =>
      have hhere (hw : w ∈ (effectOf c workingDir t target dest).writes) :
          ∃ target' ∈ target :: rest, ∃ dest, target'.dest = some dest ∧
            w.path = c.resolvePath dest :=
        ⟨target, List.mem_cons_self, dest, hdest, effectOf_path hw⟩
      rw [effects_of_some hdest, Effect.before] at hw
      split at hw
      · exact hhere hw
      · exact (List.mem_append.mp hw).elim hhere (hlater _)

/-- Files are written where the writes say; everywhere else, directories are made at most. -/
theorem effects_wrote (t : FileTree) (ts : List Target) :
    Wrote ((effects c workingDir t ts).writes.map FileWrite.location) t
      (effects c workingDir t ts).tree := by
  induction ts generalizing t with
  | nil => exact .refl t
  | cons target rest ih =>
    cases hdest : target.dest with
    | none =>
      rw [effects_of_none hdest]
      exact ih t
    | some dest =>
      rw [effects_of_some hdest, Effect.before]
      split
      · exact effectOf_wrote
      · rw [List.map_append]
        exact effectOf_wrote.trans (ih _)

/-- What a run that succeeds gives: one result for each target with a destination, in order, and
one file for each result. -/
theorem effects_ok {ts : List Target} {results : List Compiled}
    (h : (effects c workingDir t ts).outcome = .ok results) :
    results.map (fun r => (r.target, r.output)) =
        ts.filterMap (fun target => target.dest.map fun dest => (target.name, c.resolvePath dest)) ∧
      (effects c workingDir t ts).writes.map FileWrite.path = results.map Compiled.output := by
  induction ts generalizing t results with
  | nil =>
    obtain rfl := Except.ok.inj h
    exact ⟨rfl, rfl⟩
  | cons target rest ih =>
    cases hdest : target.dest with
    | none =>
      rw [effects_of_none hdest] at h ⊢
      rw [List.filterMap_cons_none (by rw [hdest]; rfl)]
      exact ih h
    | some dest =>
      rw [effects_of_some hdest, Effect.before] at h ⊢
      rw [List.filterMap_cons_some (by rw [hdest]; rfl)]
      split at h
      · cases h
      · next r hr =>
        obtain ⟨hname, houtput, hpath⟩ := effectOf_ok hr
        cases hnext :
            (effects c workingDir (effectOf c workingDir t target dest).tree rest).outcome with
        | error f =>
          rw [hnext] at h
          cases h
        | ok more =>
          rw [hnext] at h
          obtain rfl := Except.ok.inj h
          obtain ⟨hresults, hwrites⟩ := ih hnext
          rw [List.map_append, List.map_cons, List.map_cons, hname, houtput, hpath, hresults,
            hwrites]
          exact ⟨rfl, rfl⟩

/-- What compiling with success gives: one result for each target with a destination, in order. -/
theorem results_of_targets_run {ts : List Target} {s s' : Session} {results : List Compiled}
    (hrun : (targets c ts).run s = (.ok results, s')) :
    results.map (fun r => (r.target, r.output)) =
      ts.filterMap (fun target =>
        target.dest.map fun dest => (target.name, c.resolvePath dest)) := by
  obtain ⟨notices, hrun'⟩ := targets_run c ts s
  exact (effects_ok (Prod.mk.inj (hrun'.symm.trans hrun)).1).1

end Targets

end ModuleBundler.Compile
