/-
# ModuleBundler.Proofs.FileTree.Outside -- trees that differ in some files

Two trees are the same outside some locations if every other look-up finds the same, and
there is nothing but files at these locations, if anything. The directories are the same
then, so the same paths arrive (`SameOutside.reaches_iff`), and who reads at other
locations sees no difference. What is done to one file is a `FileEdit`: it is written, or
deleted. Edits at these locations keep two trees so (`SameOutside.edit`), also when there are
many of them (`Reworked.sameOutside`).
-/

import ModuleBundler.Proofs.FileTree.Plain

namespace ModuleBundler.FileTree

variable {t t' t'' : FileTree} {workingDir : Location} {p : Path} {l m : Location}

/-! ## Putting and deleting a file -/

theorem TakesFile.ne_of_directory (hl : t.TakesFile l) (hm : t.lookup m = some .directory) :
    m ≠ l := by
  rintro rfl
  cases hl.holds _ hm

theorem TakesFile.ne_nil (hl : t.TakesFile l) : l ≠ [] :=
  fun hnil => hl.ne_of_directory t.lookup_nil hnil.symm

theorem TakesFile.lookup_self (hl : t.TakesFile l) (content : Content) :
    (t.insert l (.file content)).lookup l = some (.file content) := by
  rw [lookup_insert t l _ hl.ne_nil hl.named, if_pos rfl]

/-- Deleting takes away a location and what is below it. -/
theorem lookup_erase (t : FileTree) (l : Location) {m : Location} (hm : m ≠ []) :
    (t.erase l).lookup m = if l <+: m then none else t.lookup m := by
  refine Option.ext fun node => ?_
  have hkept : (t.erase l).lookup m = some node ↔
      t.lookup m = some node ∧ (!l.isPrefixOf m) = true := by
    rw [lookup_eq_some_iff hm, lookup_eq_some_iff hm]
    exact List.mem_filter
  rw [hkept, Bool.not_eq_true', ← Bool.not_eq_true, List.isPrefixOf_iff_prefix]
  by_cases hbelow : l <+: m
  · simp [hbelow]
  · simp [hbelow]

/-- On the way to what is there stand directories. -/
theorem Plain.lookup_of_below (h : t.Plain workingDir) {names : List String} {node : Node}
    (hnames : names ≠ []) (hm : t.lookup (l ++ names) = some node) :
    t.lookup l = some .directory := by
  induction names generalizing l with
  | nil => exact absurd rfl hnames
  | cons name rest ih =>
    by_cases hrest : rest = []
    · rw [hrest] at hm
      simpa using h.rooted _ _ hm
    · rw [List.append_cons] at hm
      simpa using h.rooted _ _ (ih hrest hm)

/-- Where a file is, nothing but the file is deleted with it. -/
theorem TakesFile.lookup_erase (hl : t.TakesFile l) (h : t.Plain workingDir) (m : Location) :
    (t.erase l).lookup m = if m = l then none else t.lookup m := by
  by_cases hroot : m = []
  · rw [hroot, if_neg hl.ne_nil.symm, lookup_nil, lookup_nil]
  · rw [FileTree.lookup_erase t l hroot]
    by_cases hml : m = l
    · rw [if_pos (hml ▸ List.prefix_rfl), if_pos hml]
    · rw [if_neg hml]
      split
      · next hbelow =>
        obtain ⟨names, rfl⟩ := hbelow
        have hnames : names ≠ [] := by
          rintro rfl
          exact hml (List.append_nil l)
        cases hlookup : t.lookup (l ++ names) with
        | none => rfl
        | some node => exact absurd rfl (hl.ne_of_directory (h.lookup_of_below hnames hlookup))
      · rfl

/-- What is done to one file: at its location there is a file now, or nothing, and all else is
as it was. -/
structure FileEdit (l : Location) (t t' : FileTree) : Prop where
  elsewhere : ∀ m, m ≠ l → t'.lookup m = t.lookup m
  holds : ∀ node, t'.lookup l = some node → node.isFile = true

theorem TakesFile.edit_insert (hl : t.TakesFile l) (content : Content) :
    FileEdit l t (t.insert l (.file content)) := by
  refine ⟨fun m hm => ?_, fun node hnode => ?_⟩
  · rw [lookup_insert t m _ hl.ne_nil hl.named, if_neg hm]
  · rw [hl.lookup_self] at hnode
    rw [← Option.some.inj hnode]
    rfl

theorem TakesFile.edit_erase (hl : t.TakesFile l) (h : t.Plain workingDir) :
    FileEdit l t (t.erase l) := by
  refine ⟨fun m hm => ?_, fun node hnode => ?_⟩
  · rw [hl.lookup_erase h, if_neg hm]
  · rw [hl.lookup_erase h, if_pos rfl] at hnode
    cases hnode

theorem FileEdit.lookup_directory (he : FileEdit l t t') (hl : t.TakesFile l)
    (hm : t.lookup m = some .directory) : t'.lookup m = some .directory := by
  rw [he.elsewhere m (hl.ne_of_directory hm), hm]

/-- A file can be put where one could be before something was done to another. -/
theorem FileEdit.takesFile (he : FileEdit l t t') (hl : t.TakesFile l) (hm : t.TakesFile m) :
    t'.TakesFile m := by
  refine ⟨hm.named, he.lookup_directory hl hm.parent, fun node hnode => ?_⟩
  by_cases hml : m = l
  · exact he.holds node (hml ▸ hnode)
  · rw [he.elsewhere m hml] at hnode
    exact hm.holds node hnode

/-- What is done to a file keeps a tree without links. -/
theorem FileEdit.plain (he : FileEdit l t t') (hl : t.TakesFile l) (h : t.Plain workingDir) :
    t'.Plain workingDir := by
  refine ⟨fun m node hm => he.lookup_directory hl ?_,
    fun m target hm => ?_, he.lookup_directory hl h.directory⟩
  · by_cases hml : m = l
    · rw [hml]
      exact hl.parent
    · rw [he.elsewhere m hml] at hm
      exact h.rooted m node hm
  · by_cases hml : m = l
    · cases he.holds _ (hml ▸ hm)
    · rw [he.elsewhere m hml] at hm
      exact h.linkFree m target hm

/-- Putting a file keeps a tree without links. -/
theorem Plain.insert (h : t.Plain workingDir) (hl : t.TakesFile l) (content : Content) :
    (t.insert l (.file content)).Plain workingDir :=
  (hl.edit_insert content).plain hl h

/-! ## The same outside some locations -/

/-- Two trees are the same but for files at some locations. -/
structure SameOutside (written : Location → Prop) (t t' : FileTree) : Prop where
  agrees : ∀ l, ¬ written l → t'.lookup l = t.lookup l
  takes : ∀ l, written l → t.TakesFile l
  takes' : ∀ l, written l → t'.TakesFile l

variable {written : Location → Prop}

theorem SameOutside.refl (h : ∀ l, written l → t.TakesFile l) : SameOutside written t t :=
  ⟨fun _ _ => rfl, h, h⟩

theorem SameOutside.symm (h : SameOutside written t t') : SameOutside written t' t :=
  ⟨fun l hl => (h.agrees l hl).symm, h.takes', h.takes⟩

theorem SameOutside.trans (h : SameOutside written t t') (h' : SameOutside written t' t'') :
    SameOutside written t t'' :=
  ⟨fun l hl => (h'.agrees l hl).trans (h.agrees l hl), h.takes, h'.takes'⟩

/-- What is done to a file at one of the locations is seen there only. -/
theorem SameOutside.edit (h : SameOutside written t t') (hl : written l)
    (he : FileEdit l t' t'') : SameOutside written t t'' := by
  have htakes := h.takes' l hl
  refine ⟨fun m hm => ?_, h.takes, fun m hm => he.takesFile htakes (h.takes' m hm)⟩
  have hml : m ≠ l := fun heq => hm (heq ▸ hl)
  rw [he.elsewhere m hml, h.agrees m hm]

/-- Writing a file at one of the locations is seen there only. -/
theorem SameOutside.insert (h : SameOutside written t t') (hl : written l) (content : Content) :
    SameOutside written t (t'.insert l (.file content)) :=
  h.edit hl ((h.takes' l hl).edit_insert content)

theorem SameOutside.lookup_directory_iff (h : SameOutside written t t') :
    t'.lookup l = some .directory ↔ t.lookup l = some .directory := by
  by_cases hl : written l
  · exact ⟨fun hdirectory => absurd rfl ((h.takes' l hl).ne_of_directory hdirectory),
      fun hdirectory => absurd rfl ((h.takes l hl).ne_of_directory hdirectory)⟩
  · rw [h.agrees l hl]

/-- A file can be at a location of one tree if it can be in the other. -/
theorem SameOutside.holds_iff (h : SameOutside written t t') :
    (∀ node, t'.lookup l = some node → node.isFile = true) ↔
      ∀ node, t.lookup l = some node → node.isFile = true := by
  by_cases hl : written l
  · exact ⟨fun _ => (h.takes l hl).holds, fun _ => (h.takes' l hl).holds⟩
  · rw [h.agrees l hl]

/-! ## Paths that arrive -/

/-- Steps that arrive in one tree arrive in the other. -/
theorem SameOutside.exists_walkSteps (h : SameOutside written t t') (ht : t.Plain workingDir)
    {purpose : Purpose}
    {onLink onLink' : Location → String → List Step → Except IoError Destination}
    {steps : List Step} {d : Destination} (hl : t.lookup l = some .directory)
    (hok : t.walkSteps purpose onLink l steps = .ok d) :
    ∃ d', t'.walkSteps purpose onLink' l steps = .ok d' := by
  induction steps generalizing l with
  | nil => exact ⟨_, rfl⟩
  | cons step rest ih =>
    cases step with
    | here => exact ih hl hok
    | slash => exact ih hl hok
    | up => exact ih (ht.rooted _ _ hl) hok
    | name n =>
      unfold walkSteps at hok ⊢
      split at hok
      · cases hok
      · next hpurpose =>
        rw [if_neg hpurpose]
        split at hok
        · cases hok
        · next hlength =>
          rw [if_neg hlength]
          by_cases hwritten : written (l ++ [n])
          · -- There is a file at most, in both trees: only the last step leads there.
            have hrest : rest = [] := by
              split at hok
              · split at hok
                · next hlast => simp_all
                · cases hok
              · next hdirectory =>
                exact absurd rfl ((h.takes _ hwritten).ne_of_directory hdirectory)
              · split at hok
                · next hlast => simpa using hlast
                · cases hok
              · next target hlink => exact absurd hlink (ht.linkFree _ _)
            have hl' := h.lookup_directory_iff.mpr hl
            subst hrest
            cases hfound : t'.lookup (l ++ [n]) with
            | none => exact ⟨.vacant (l ++ [n]), by simp [hl']⟩
            | some node =>
              have hfile := (h.takes' _ hwritten).holds _ hfound
              cases node with
              | file content => exact ⟨.found (l ++ [n]) (.file content), by simp⟩
              | directory => cases hfile
              | link target => cases hfile
          · rw [h.agrees _ hwritten]
            split at hok
            · split at hok
              · next hlast =>
                have hl' := h.lookup_directory_iff.mpr hl
                exact ⟨.vacant (l ++ [n]), by simp_all⟩
              · cases hok
            · next hdirectory => exact ih hdirectory hok
            · split at hok
              · next content _ hlast =>
                exact ⟨.found (l ++ [n]) (.file content), by rw [if_pos hlast]⟩
              · cases hok
            · next target hlink => exact absurd hlink (ht.linkFree _ _)

theorem SameOutside.reaches (h : SameOutside written t t') (ht : t.Plain workingDir)
    {purpose : Purpose} (hreach : t.Reaches workingDir purpose p) :
    t'.Reaches workingDir purpose p := by
  obtain ⟨d, hd⟩ := hreach
  unfold Reaches
  unfold destination at hd ⊢
  split at hd
  · cases hd
  · obtain ⟨_, hfollow⟩ := t.exists_follow_eq purpose maxLinks
    obtain ⟨_, hfollow'⟩ := t'.exists_follow_eq purpose maxLinks
    rw [hfollow] at hd
    rw [hfollow']
    exact h.exists_walkSteps ht (ht.start p) hd

section Readers

variable (h : SameOutside written t t') (ht : t.Plain workingDir) (ht' : t'.Plain workingDir)
include h ht ht'

/-- The same paths arrive. -/
theorem SameOutside.reaches_iff {purpose : Purpose} :
    t'.Reaches workingDir purpose p ↔ t.Reaches workingDir purpose p :=
  ⟨h.symm.reaches ht', h.reaches ht⟩

/-- The same paths lead to directories. -/
theorem SameOutside.directory?_eq :
    t'.directory? workingDir p = t.directory? workingDir p := by
  ext l
  rw [ht'.directory?_eq_some_iff, ht.directory?_eq_some_iff, h.reaches_iff ht ht',
    h.lookup_directory_iff]

/-- Files are written to the same locations. -/
theorem SameOutside.fileLocation_eq_ok_iff :
    t'.fileLocation workingDir p = .ok l ↔ t.fileLocation workingDir p = .ok l := by
  rw [ht'.fileLocation_eq_ok_iff, ht.fileLocation_eq_ok_iff, h.reaches_iff ht ht', h.holds_iff]

/-- A path that leads away from the locations is read alike. -/
theorem SameOutside.readText_eq_ok_iff (hp : ¬ written (p.place workingDir)) {text : String} :
    t'.readText workingDir p = .ok text ↔ t.readText workingDir p = .ok text := by
  rw [ht'.readText_eq_ok_iff, ht.readText_eq_ok_iff, h.reaches_iff ht ht', h.agrees _ hp]

end Readers

/-! ## Files that come and go -/

/-- Files at some locations were written anew, with any content, or deleted, any number of
times and in any order. -/
inductive Reworked (written : Location → Prop) : FileTree → FileTree → Prop
  | refl (t : FileTree) : Reworked written t t
  | overwrite {t t' : FileTree} {l : Location} (content : Content) :
      Reworked written t t' → written l → Reworked written t (t'.insert l (.file content))
  | delete {t t' : FileTree} {l : Location} :
      Reworked written t t' → written l → Reworked written t (t'.erase l)

/-- Files that come and go where files can be leave the rest of the tree as it was. -/
theorem Reworked.sameOutside (h : Reworked written t t') (ht : t.Plain workingDir)
    (htakes : ∀ l, written l → t.TakesFile l) :
    t'.Plain workingDir ∧ SameOutside written t t' := by
  induction h with
  | refl => exact ⟨ht, .refl htakes⟩
  | overwrite content _ hl ih =>
    obtain ⟨hplain, hsame⟩ := ih
    have hl' := hsame.takes' _ hl
    exact ⟨hplain.insert hl' content, hsame.insert hl content⟩
  | delete _ hl ih =>
    obtain ⟨hplain, hsame⟩ := ih
    have he := (hsame.takes' _ hl).edit_erase hplain
    exact ⟨he.plain (hsame.takes' _ hl) hplain, hsame.edit hl he⟩

end ModuleBundler.FileTree
