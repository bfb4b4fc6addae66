/-
# ModuleBundler.Proofs.FileTree.Lookup -- what is found, and where nothing is

A look-up finds an entry of its tree, and does not see in which order the entries are kept
(`lookup_eq_of_perm`). What a path leads to is there, and where it leads to nothing, something
can be put (`destination_holds`): steps are made of names, and so is the directory that they
lead to, because it is there.
-/

import ModuleBundler.FileTree.Edit

namespace ModuleBundler

open ModuleBundler.Path (IsName)

namespace FileTree

/-! ## Named locations -/

theorem isNamed_nil : IsNamed [] := by simp [IsNamed]

theorem IsNamed.snoc {l : Location} (h : IsNamed l) {name : String} (hname : IsName name) :
    IsNamed (l ++ [name]) := by
  intro n hn
  rcases List.mem_append.mp hn with hold | hnew
  · exact h n hold
  · rw [List.mem_singleton.mp hnew]
    exact hname

/-! ## Look-ups and the order of entries -/

/-- The root directory is there. -/
theorem lookup_nil (t : FileTree) : t.lookup [] = some .directory := by
  simp [lookup]

/-- A look-up finds the entry of its location. -/
theorem lookup_eq_some_iff {t : FileTree} {l : Location} (hl : l ≠ []) {node : Node} :
    t.lookup l = some node ↔ (l, node) ∈ t.entries := by
  rw [lookup, if_neg hl]
  exact Keyed.lookup_eq_some_iff t.distinct

/-- What is found stands at a named location. -/
theorem isNamed_of_lookup {t : FileTree} {l : Location} {node : Node}
    (h : t.lookup l = some node) : IsNamed l := by
  by_cases hl : l = []
  · rw [hl]
    exact isNamed_nil
  · exact t.named _ ((lookup_eq_some_iff hl).mp h)

/-- A look-up does not see the order of the entries. -/
theorem lookup_eq_of_perm {t t' : FileTree} (h : t'.entries.Perm t.entries) :
    t'.lookup = t.lookup := by
  funext l
  by_cases hl : l = []
  · simp [lookup, hl]
  · refine Option.ext fun node => ?_
    rw [lookup_eq_some_iff hl, lookup_eq_some_iff hl, h.mem_iff]

end FileTree

/-! ## Where steps lead -/

/-- What a destination says of the tree in which it was found. -/
def Destination.Holds (t : FileTree) : Destination → Prop
  | .found l node => node = .directory ∨ t.lookup l = some node
  | .vacant l => t.lookup l = none ∧ FileTree.IsNamed l

namespace FileTree

/-- Steps that go on by names only. -/
def NamesOnly (steps : List Step) : Prop := ∀ name, Step.name name ∈ steps → IsName name

theorem NamesOnly.append {steps further : List Step} (h : NamesOnly steps)
    (hfurther : NamesOnly further) : NamesOnly (steps ++ further) := by
  intro name hmem
  exact (List.mem_append.mp hmem).elim (h name) (hfurther name)

theorem namesOnly_steps (p : Path) : NamesOnly p.steps := by
  intro name hmem
  obtain ⟨segment, hsegment, hstep⟩ := List.mem_map.mp hmem
  obtain ⟨hsplit, hne⟩ := List.mem_filter.mp hsegment
  split at hstep
  · cases hstep
  · split at hstep
    · cases hstep
    · obtain rfl : String.ofList segment = name := by simpa using hstep
      refine ⟨?_, ?_⟩
      · intro hempty
        simp [← String.toList_inj] at hempty
        simp [hempty] at hne
      · rw [String.toList_ofList]
        exact Text.not_mem_of_mem_splitOn hsplit

theorem namesOnly_lookupSteps (p : Path) : NamesOnly p.lookupSteps := by
  unfold Path.lookupSteps
  split
  · exact (namesOnly_steps p).append (by simp [NamesOnly])
  · exact namesOnly_steps p

section Steps

variable {t : FileTree} {workingDir l : Location} {p : Path} {purpose : Purpose}
  {steps : List Step} {d : Destination}

theorem walkSteps_holds {onLink : Location → String → List Step → Except IoError Destination}
    (hlink : ∀ l target rest d, NamesOnly rest → onLink l target rest = .ok d → d.Holds t)
    (hsteps : NamesOnly steps) (h : t.walkSteps purpose onLink l steps = .ok d) : d.Holds t := by
  induction steps generalizing l with
  | nil =>
    obtain rfl := Except.ok.inj h
    exact .inl rfl
  | cons step rest ih =>
    have hrest : NamesOnly rest := fun name hmem => hsteps name (List.mem_cons_of_mem _ hmem)
    cases step with
    | here => exact ih hrest h
    | slash => exact ih hrest h
    | up => exact ih hrest h
    | name n =>
      unfold walkSteps at h
      split at h
      · cases h
      · split at h
        · cases h
        · split at h
          · next hnone =>
            split at h
            · next hlast =>
              -- The directory of what is missing is there, and so it is named.
              obtain rfl := Except.ok.inj h
              obtain ⟨-, hparent⟩ := (Bool.and_eq_true _ _).mp hlast
              obtain ⟨node, hnode⟩ := Option.isSome_iff_exists.mp hparent
              exact ⟨hnone, (isNamed_of_lookup hnode).snoc (hsteps n List.mem_cons_self)⟩
            · cases h
          · exact ih hrest h
          · next content hfile =>
            split at h
            · obtain rfl := Except.ok.inj h
              exact .inr hfile
            · cases h
          · next target htarget =>
            split at h
            · obtain rfl := Except.ok.inj h
              exact .inr htarget
            · exact hlink _ _ _ _ hrest h

theorem follow_holds {links : Nat} (hsteps : NamesOnly steps)
    (h : t.follow purpose links l steps = .ok d) : d.Holds t := by
  induction links generalizing l steps d with
  | zero => exact walkSteps_holds (fun _ _ _ _ _ hfail => by cases hfail) hsteps h
  | succ links ih =>
    refine walkSteps_holds (fun at_ target rest d hrest hfollow => ?_) hsteps h
    exact ih ((namesOnly_lookupSteps ⟨target⟩).append hrest) hfollow

/-- What a path leads to is there, and where it leads to nothing, nothing is but can be. -/
theorem destination_holds (hsteps : NamesOnly steps)
    (h : t.destination workingDir purpose p steps = .ok d) : d.Holds t := by
  unfold destination at h
  split at h
  · cases h
  · exact follow_holds hsteps h

theorem ne_nil_of_lookup_eq_none (h : t.lookup l = none) : l ≠ [] := by
  rintro rfl
  rw [lookup_nil] at h
  cases h

/-- A file is written where one is or nothing is, never at the root directory. -/
theorem isNamed_of_fileLocation (h : t.fileLocation workingDir p = .ok l) :
    IsNamed l ∧ l ≠ [] := by
  unfold fileLocation at h
  split at h
  · next m content hfound =>
    obtain rfl := Except.ok.inj h
    rcases destination_holds (namesOnly_lookupSteps p) hfound with hdirectory | hlookup
    · cases hdirectory
    · refine ⟨isNamed_of_lookup hlookup, ?_⟩
      rintro rfl
      rw [lookup_nil] at hlookup
      cases hlookup
  · cases h
  · next m hvacant =>
    obtain rfl := Except.ok.inj h
    obtain ⟨hnone, hnamed⟩ := destination_holds (namesOnly_lookupSteps p) hvacant
    exact ⟨hnamed, ne_nil_of_lookup_eq_none hnone⟩
  · cases h

end Steps

/-! ## Making directories -/

section MakeDirectories

variable {t t' : FileTree} {workingDir : Location} {p : Path}

/-- A directory is made where nothing is, if it is made. -/
theorem makeDirectory_eq_ok (h : t.makeDirectory workingDir p = .ok t') :
    ∃ l, t.destination workingDir .entry p p.steps = .ok (.vacant l) ∧
      t' = t.insert l .directory := by
  unfold FileTree.makeDirectory at h
  split at h
  · split at h
    · next l hvacant => exact ⟨l, hvacant, (Except.ok.inj h).symm⟩
    · cases h
    · cases h
  · cases hrequire : t.requireDirectory workingDir p p.steps.dropLast with
    | error e =>
      rw [hrequire] at h
      cases h
    | ok u =>
      rw [hrequire] at h
      cases h

variable {P : FileTree → Prop} (hmade : ∀ (t : FileTree) (p : Path) (l : Location), P t →
  t.destination workingDir .entry p p.steps = .ok (.vacant l) → P (t.insert l .directory))
include hmade

theorem ensureDirectory_induction (p : Path) (ht : P t) :
    P (t.ensureDirectory workingDir p).1 := by
  unfold FileTree.ensureDirectory
  split
  · next hok =>
    obtain ⟨l, hvacant, rfl⟩ := makeDirectory_eq_ok hok
    exact hmade t p l ht hvacant
  · split
    · exact ht
    · exact ht

theorem makeDirectoriesUpTo_induction (p : Path) (above : List Path) (ht : P t) :
    P (t.makeDirectoriesUpTo workingDir p above).1 := by
  induction above generalizing p with
  | nil =>
    unfold FileTree.makeDirectoriesUpTo
    split
    · exact ht
    · exact ensureDirectory_induction hmade p ht
  | cons parent above ih =>
    unfold FileTree.makeDirectoriesUpTo
    split
    · exact ht
    · split
      · next hok =>
        obtain ⟨l, hvacant, rfl⟩ := makeDirectory_eq_ok hok
        exact hmade t p l ht hvacant
      · have hparent := ih parent
        split
        · next hup =>
          rw [hup] at hparent
          exact ensureDirectory_induction hmade p hparent
        · exact hparent
      · split
        · exact ht
        · exact ht

/-- What each directory that is made keeps true stays true, also when one of them cannot
be made. -/
theorem makeDirectories_induction (p : Path) (ht : P t) :
    P (t.makeDirectories workingDir p).1 := by
  unfold FileTree.makeDirectories
  split
  · exact ht
  · exact makeDirectoriesUpTo_induction hmade p _ ht

end MakeDirectories

end FileTree

end ModuleBundler
