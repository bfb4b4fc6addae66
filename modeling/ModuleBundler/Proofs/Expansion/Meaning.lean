/-
# ModuleBundler.Proofs.Expansion.Meaning -- what a list of patterns stands for

Patterns are applied one after the other to the files that were matched so far. This
module says what a whole list of them stands for, without the files in between:
`Survives` is a pattern that yields a path which no later one takes away, `Place` is
the first of them, and `Meaning` is the list of files that follows from the places.

Main statement: `expand_meaning`. The files that come out are those of the meaning, and
there is one such list (`Meaning.unique`), whatever order the tree keeps its entries in.
-/

import Mathlib.Data.List.Induction
import Mathlib.Order.Bounds.Basic
import ModuleBundler.Proofs.Expansion.Yield
import ModuleBundler.Proofs.Text.Utf8Order

namespace ModuleBundler.Expansion

open InputPattern (Yields)

/-! ## The meaning of a list of patterns -/

section Meaning

variable (yields : InputPattern → SourcePath → Prop) (ps : List InputPattern)

/-- A pattern yields a display path, and no later pattern takes it away. -/
def Survives (display : String) (i : Nat) : Prop :=
  (∃ p location, ps[i]? = some p ∧ yields p ⟨display, location⟩) ∧
    ∀ j q, i < j → ps[j]? = some q → ¬ q.Excludes display

/-- The first pattern that yields a display path behind the last one that takes it away. -/
def Place (display : String) (i : Nat) : Prop :=
  IsLeast {k | Survives yields ps display k} i

/-- One file stands before another: its pattern comes first or, within one pattern, the
bytes of its display path do. -/
def Precedes (f g : SourcePath) : Prop :=
  ∃ i j, Place yields ps f.display i ∧ Place yields ps g.display j ∧
    (i < j ∨ i = j ∧ f.display.toUTF8.toList < g.display.toUTF8.toList)

/-- A file is read where the pattern of its place found it, and that pattern found its
display path nowhere else. -/
def Located (f : SourcePath) : Prop :=
  ∃ i p, Place yields ps f.display i ∧ ps[i]? = some p ∧
    ∀ location, yields p ⟨f.display, location⟩ ↔ location = f.location

/-- The files that a list of patterns stands for. -/
structure Meaning (files : List SourcePath) : Prop where
  displayed : ∀ display, display ∈ files.map SourcePath.display ↔
    ∃ i, Survives yields ps display i
  distinct : (files.map SourcePath.display).Nodup
  ordered : files.Pairwise (Precedes yields ps)
  located : ∀ f ∈ files, Located yields ps f

end Meaning

variable {yields : InputPattern → SourcePath → Prop} {ps : List InputPattern}
  {p : InputPattern} {f g : SourcePath} {files files' : List SourcePath}

/-! ## One meaning -/

theorem not_precedes_self : ¬ Precedes yields ps f f := by
  rintro ⟨i, j, hi, hj, hlt | ⟨-, hlt⟩⟩
  · exact absurd (hi.unique hj) hlt.ne
  · exact List.lt_irrefl _ hlt

theorem Precedes.asymm (h : Precedes yields ps f g) : ¬ Precedes yields ps g f := by
  obtain ⟨i, j, hi, hj, hij⟩ := h
  rintro ⟨j', i', hj', hi', hji⟩
  obtain rfl := hi.unique hi'
  obtain rfl := hj.unique hj'
  rcases hij with hlt | ⟨rfl, hlt⟩
  · rcases hji with hgt | ⟨heq, -⟩
    · exact absurd hgt hlt.asymm
    · exact absurd heq hlt.ne'
  · rcases hji with hgt | ⟨-, hgt⟩
    · exact absurd hgt (lt_irrefl _)
    · exact List.lt_asymm hlt hgt

/-- Two lists of files with one meaning hold the same files. -/
theorem Meaning.subset (h : Meaning yields ps files) (h' : Meaning yields ps files') :
    files ⊆ files' := by
  intro f hf
  have hdisplay : f.display ∈ files'.map SourcePath.display :=
    (h'.displayed _).mpr ((h.displayed _).mp (List.mem_map_of_mem hf))
  obtain ⟨g, hg, hsame⟩ := List.mem_map.mp hdisplay
  obtain ⟨i, p, hi, hp, hfound⟩ := h.located f hf
  obtain ⟨j, q, hj, hq, hfound'⟩ := h'.located g hg
  rw [hsame] at hj hfound'
  obtain rfl := hi.unique hj
  obtain rfl : p = q := Option.some.inj (hp.symm.trans hq)
  have hlocation : f.location = g.location := (hfound' _).mp ((hfound _).mpr rfl)
  have hfg : f = g := by
    cases f
    cases g
    simp_all
  rw [hfg]
  exact hg

/-- Patterns stand for one list of files. -/
theorem Meaning.unique (h : Meaning yields ps files) (h' : Meaning yields ps files') :
    files = files' := by
  have : Std.Irrefl (Precedes yields ps) := ⟨fun _ => not_precedes_self⟩
  have : Std.Antisymm (Precedes yields ps) := ⟨fun _ _ hfg hgf => absurd hgf hfg.asymm⟩
  exact List.Subset.antisymm_of_pairwise h.ordered h'.ordered (h.subset h') (h'.subset h)

/-! ## One pattern more -/

theorem getElem?_snoc_iff {i : Nat} {q : InputPattern} :
    (ps ++ [p])[i]? = some q ↔ ps[i]? = some q ∨ i = ps.length ∧ q = p := by
  rcases lt_trichotomy i ps.length with hlt | rfl | hgt
  · rw [List.getElem?_append_left hlt]
    simp [hlt.ne]
  · simp [eq_comm]
  · rw [List.getElem?_eq_none (by simp; omega), List.getElem?_eq_none (by omega)]
    simp [hgt.ne']

theorem Survives.lt_length {display : String} {i : Nat} (h : Survives yields ps display i) :
    i < ps.length := by
  obtain ⟨⟨p, _, hp, _⟩, -⟩ := h
  exact (List.getElem?_eq_some_iff.mp hp).1

/-- One pattern more ends some places and may be one itself. -/
theorem survives_snoc_iff {display : String} {i : Nat} :
    Survives yields (ps ++ [p]) display i ↔
      Survives yields ps display i ∧ ¬ p.Excludes display ∨
        i = ps.length ∧ ∃ location, yields p ⟨display, location⟩ := by
  constructor
  · rintro ⟨⟨q, location, hq, hyields⟩, hlater⟩
    rcases getElem?_snoc_iff.mp hq with hbefore | ⟨rfl, rfl⟩
    · have hi := (List.getElem?_eq_some_iff.mp hbefore).1
      refine .inl ⟨⟨⟨q, location, hbefore, hyields⟩, ?_⟩, hlater _ _ hi (by simp)⟩
      intro j r hij hr
      exact hlater j r hij (getElem?_snoc_iff.mpr (.inl hr))
    · exact .inr ⟨rfl, location, hyields⟩
  · rintro (⟨⟨⟨q, location, hq, hyields⟩, hlater⟩, hkept⟩ | ⟨rfl, location, hyields⟩)
    · refine ⟨⟨q, location, getElem?_snoc_iff.mpr (.inl hq), hyields⟩, ?_⟩
      intro j r hij hr
      rcases getElem?_snoc_iff.mp hr with hbefore | ⟨-, rfl⟩
      · exact hlater j r hij hbefore
      · exact hkept
    · refine ⟨⟨p, location, by simp, hyields⟩, ?_⟩
      intro j r hij hr
      have hj := (List.getElem?_eq_some_iff.mp hr).1
      rw [List.length_append, List.length_singleton] at hj
      omega

/-- A place stays where it is, unless the path is taken away. -/
theorem Place.snoc {display : String} {i : Nat} (h : Place yields ps display i)
    (hkept : ¬ p.Excludes display) : Place yields (ps ++ [p]) display i := by
  refine ⟨survives_snoc_iff.mpr (.inl ⟨h.1, hkept⟩), ?_⟩
  intro k hk
  rcases survives_snoc_iff.mp hk with ⟨hbefore, -⟩ | ⟨rfl, -⟩
  · exact h.2 hbefore
  · exact (Survives.lt_length h.1).le

/-- A path without a place gets the last pattern's. -/
theorem place_length (hnew : ∀ k, ¬ Survives yields ps f.display k) (hyields : yields p f) :
    Place yields (ps ++ [p]) f.display ps.length := by
  refine ⟨survives_snoc_iff.mpr (.inr ⟨rfl, f.location, hyields⟩), ?_⟩
  intro k hk
  rcases survives_snoc_iff.mp hk with ⟨hbefore, -⟩ | ⟨rfl, -⟩
  · exact absurd hbefore (hnew k)
  · exact le_rfl

theorem Precedes.snoc (h : Precedes yields ps f g) (hf : ¬ p.Excludes f.display)
    (hg : ¬ p.Excludes g.display) : Precedes yields (ps ++ [p]) f g := by
  obtain ⟨i, j, hi, hj, hij⟩ := h
  exact ⟨i, j, hi.snoc hf, hj.snoc hg, hij⟩

theorem Located.snoc (h : Located yields ps f) (hf : ¬ p.Excludes f.display) :
    Located yields (ps ++ [p]) f := by
  obtain ⟨i, q, hi, hq, hfound⟩ := h
  exact ⟨i, q, hi.snoc hf, getElem?_snoc_iff.mpr (.inl hq), hfound⟩

/-- What a pattern takes away leaves the meaning of the longer list. -/
theorem Meaning.remove (h : Meaning yields ps files) (hnone : ∀ f, ¬ yields p f)
    {gone : String → Bool} (hgone : ∀ display, gone display = true ↔ p.Excludes display) :
    Meaning yields (ps ++ [p]) (files.filter fun f => !gone f.display) := by
  have hkept : ∀ f ∈ files.filter (fun f => !gone f.display),
      f ∈ files ∧ ¬ p.Excludes f.display := by
    intro f hf
    rw [List.mem_filter, Bool.not_eq_true', ← Bool.not_eq_true, hgone] at hf
    exact hf
  constructor
  case displayed =>
    intro display
    have hmem : display ∈ (files.filter fun f => !gone f.display).map SourcePath.display ↔
        display ∈ files.map SourcePath.display ∧ ¬ p.Excludes display := by
      rw [← hgone]
      simp only [List.mem_map, List.mem_filter]
      constructor
      · rintro ⟨f, ⟨hf, hstays⟩, rfl⟩
        exact ⟨⟨f, hf, rfl⟩, by simpa using hstays⟩
      · rintro ⟨⟨f, hf, rfl⟩, hstays⟩
        exact ⟨f, ⟨hf, by simpa using hstays⟩, rfl⟩
    rw [hmem, h.displayed]
    constructor
    · rintro ⟨⟨i, hi⟩, hstays⟩
      exact ⟨i, survives_snoc_iff.mpr (.inl ⟨hi, hstays⟩)⟩
    · rintro ⟨i, hi⟩
      rcases survives_snoc_iff.mp hi with ⟨hbefore, hstays⟩ | ⟨-, location, hyields⟩
      · exact ⟨⟨i, hbefore⟩, hstays⟩
      · exact absurd hyields (hnone _)
  case distinct => exact h.distinct.sublist (List.filter_sublist.map _)
  case ordered =>
    refine (h.ordered.sublist List.filter_sublist).imp_of_mem ?_
    intro f g hf hg hfg
    exact hfg.snoc (hkept f hf).2 (hkept g hg).2
  case located =>
    intro f hf
    exact (h.located f (hkept f hf).1).snoc (hkept f hf).2

theorem addNew_cons_of_mem {rest : List SourcePath}
    (h : f.display ∈ files.map SourcePath.display) :
    addNew files (f :: rest) = addNew files rest := by
  obtain ⟨g, hg, hsame⟩ := List.mem_map.mp h
  have hany : (files.any fun other => other.display == f.display) = true :=
    List.any_eq_true.mpr ⟨g, hg, by simpa using hsame⟩
  rw [addNew, List.foldl_cons, if_pos hany]
  rfl

theorem addNew_cons_of_notMem {rest : List SourcePath}
    (h : f.display ∉ files.map SourcePath.display) :
    addNew files (f :: rest) = addNew (files ++ [f]) rest := by
  have hany : ¬ (files.any fun other => other.display == f.display) = true := by
    intro hany
    obtain ⟨g, hg, hsame⟩ := List.any_eq_true.mp hany
    exact h (List.mem_map.mpr ⟨g, hg, by simpa using hsame⟩)
  rw [addNew, List.foldl_cons, if_neg hany]
  rfl

/-- Adding files keeps those that were there, and adds the others in their order. -/
theorem addNew_spec (matched found : List SourcePath)
    (hdistinct : (matched.map SourcePath.display).Nodup) :
    ∃ fresh, addNew matched found = matched ++ fresh ∧ fresh.Sublist found ∧
      ((matched ++ fresh).map SourcePath.display).Nodup ∧
      ∀ f ∈ found, f.display ∈ (matched ++ fresh).map SourcePath.display := by
  induction found generalizing matched with
  | nil => exact ⟨[], by simp [addNew], List.Sublist.refl _, by simpa using hdistinct, by simp⟩
  | cons f rest ih =>
    by_cases hold : f.display ∈ matched.map SourcePath.display
    · obtain ⟨fresh, hadded, hsub, hnodup, hall⟩ := ih matched hdistinct
      refine ⟨fresh, by rw [addNew_cons_of_mem hold, hadded], hsub.cons f, hnodup, ?_⟩
      intro g hg
      rcases List.mem_cons.mp hg with rfl | hrest
      · rw [List.map_append]
        exact List.mem_append_left _ hold
      · exact hall g hrest
    · have hnext : ((matched ++ [f]).map SourcePath.display).Nodup := by
        rw [List.map_append, List.nodup_append]
        refine ⟨hdistinct, List.nodup_singleton _, ?_⟩
        rintro display hmem other hother rfl
        exact hold (by simpa [List.mem_singleton.mp hother] using hmem)
      obtain ⟨fresh, hadded, hsub, hnodup, hall⟩ := ih (matched ++ [f]) hnext
      rw [List.append_assoc, List.singleton_append] at hadded hnodup hall
      refine ⟨f :: fresh, by rw [addNew_cons_of_notMem hold, hadded], hsub.cons_cons f, hnodup, ?_⟩
      intro g hg
      rcases List.mem_cons.mp hg with rfl | hrest
      · exact List.mem_map.mpr ⟨g, by simp, rfl⟩
      · exact hall g hrest

/-- What a pattern adds leaves the meaning of the longer list. -/
theorem Meaning.add (h : Meaning yields ps files) (hnone : ∀ display, ¬ p.Excludes display)
    {found : List SourcePath} (hfound : ∀ f, f ∈ found ↔ yields p f)
    (hsorted : found.Pairwise fun f g => f.display ≤ g.display)
    (hunique : ∀ f g, yields p f → yields p g → f.display = g.display → f = g) :
    Meaning yields (ps ++ [p]) (addNew files found) := by
  obtain ⟨fresh, hadded, hsub, hdistinct, hall⟩ := addNew_spec files found h.distinct
  rw [hadded]
  have hyields : ∀ f ∈ fresh, yields p f := fun f hf => (hfound f).mp (hsub.subset hf)
  obtain ⟨-, hfresh, hapart⟩ := List.nodup_append.mp (List.map_append ▸ hdistinct)
  -- A file is fresh when no pattern before had a place for it, so its place is the last.
  have hplace : ∀ f ∈ fresh, Place yields (ps ++ [p]) f.display ps.length := by
    intro f hf
    refine place_length (fun k hk => ?_) (hyields f hf)
    have hold := (h.displayed f.display).mpr ⟨k, hk⟩
    exact hapart _ hold _ (List.mem_map_of_mem hf) rfl
  constructor
  case displayed =>
    intro display
    constructor
    · rw [List.map_append, List.mem_append]
      rintro (hold | hnew)
      · obtain ⟨i, hi⟩ := (h.displayed display).mp hold
        exact ⟨i, survives_snoc_iff.mpr (.inl ⟨hi, hnone display⟩)⟩
      · obtain ⟨f, hf, rfl⟩ := List.mem_map.mp hnew
        exact ⟨ps.length, (hplace f hf).1⟩
    · rintro ⟨i, hi⟩
      rcases survives_snoc_iff.mp hi with ⟨hbefore, -⟩ | ⟨-, location, hnow⟩
      · rw [List.map_append]
        exact List.mem_append_left _ ((h.displayed display).mpr ⟨i, hbefore⟩)
      · exact hall _ ((hfound _).mpr hnow)
  case distinct => exact hdistinct
  case ordered =>
    refine List.pairwise_append.mpr ⟨?_, ?_, ?_⟩
    · exact h.ordered.imp fun hfg => hfg.snoc (hnone _) (hnone _)
    · have hstrict : fresh.Pairwise fun f g => f.display ≠ g.display :=
        List.pairwise_map.mp hfresh
      refine (((hsorted.sublist hsub).and hstrict).imp_of_mem ?_)
      rintro f g hf hg ⟨hle, hne⟩
      exact ⟨ps.length, ps.length, hplace f hf, hplace g hg,
        .inr ⟨rfl, Text.lt_iff_toUTF8_lt.mp (lt_of_le_of_ne hle hne)⟩⟩
    · intro f hf g hg
      obtain ⟨i, q, hi, -, -⟩ := h.located f hf
      exact ⟨i, ps.length, hi.snoc (hnone _), hplace g hg, .inl (Survives.lt_length hi.1)⟩
  case located =>
    intro f hf
    rcases List.mem_append.mp hf with hold | hnew
    · exact (h.located f hold).snoc (hnone _)
    · refine ⟨ps.length, p, hplace f hnew, by simp, fun location => ⟨fun hother => ?_, ?_⟩⟩
      · have hsame := hunique _ _ hother (hyields f hnew) rfl
        rw [← hsame]
      · rintro rfl
        exact hyields f hnew

/-! ## Whole lists -/

section Run

variable {t : FileTree} {workingDir : Location} {base : Path}

/-- A pattern that cannot be read is refused. -/
theorem applyPattern_of_mistake {e : Failure} (h : p.mistake? = some e) :
    applyPattern t workingDir base files p = .error e := by
  cases p with
  | file path => cases h
  | exclude body =>
    have hparse := mistake?_eq_some_iff.mp h
    simp [applyPattern, hparse, bind, Except.bind]
  | glob body =>
    have hfound : found t workingDir base (.glob body) = .error e :=
      found_glob_of_error (mistake?_eq_some_iff.mp h)
    simp [applyPattern, hfound, Except.map]

/-- A pattern that can be read either takes away what it excludes, or adds what it finds. -/
theorem applyPattern_eq_ok (t : FileTree) (workingDir : Location) (base : Path)
    (files : List SourcePath) {p : InputPattern} (h : p.mistake? = none) :
    (∃ tokens, (∀ display, Glob.accepts tokens display = true ↔ p.Excludes display) ∧
      (∀ f, ¬ Yields t workingDir base p f) ∧
      applyPattern t workingDir base files p =
        .ok (files.filter fun f => !Glob.accepts tokens f.display)) ∨
    (∃ more, found t workingDir base p = .ok more ∧ (∀ display, ¬ p.Excludes display) ∧
      applyPattern t workingDir base files p = .ok (addNew files more)) := by
  cases p with
  | file path =>
    refine .inr ?_
    cases hfound : found t workingDir base (.file path) with
    | error e =>
      simp only [found] at hfound
      split at hfound <;> cases hfound
    | ok more =>
      refine ⟨more, rfl, fun display => id, ?_⟩
      simp [applyPattern, hfound, Except.map]
  | exclude body =>
    obtain ⟨tokens, hparse⟩ := mistake?_eq_none_iff.mp h
    refine .inl ⟨tokens, ?_, ?_, ?_⟩
    · intro display
      rw [parseGlob_eq_ok_iff] at hparse
      simp [InputPattern.Excludes, hparse]
    · intro f hf
      cases hf
    · simp [applyPattern, hparse, bind, Except.bind]
  | glob body =>
    obtain ⟨tokens, hparse⟩ := mistake?_eq_none_iff.mp h
    have hfound : found t workingDir base (.glob body) = _ := found_glob hparse
    refine .inr ⟨_, hfound, fun display => id, ?_⟩
    simp [applyPattern, hfound, Except.map]

/-- One pattern keeps the meaning. -/
theorem Meaning.applyPattern (h : Meaning (Yields t workingDir base) ps files)
    (hp : p.mistake? = none) :
    ∃ next, Expansion.applyPattern t workingDir base files p = .ok next ∧
      Meaning (Yields t workingDir base) (ps ++ [p]) next := by
  rcases applyPattern_eq_ok t workingDir base files hp with
    ⟨tokens, hgone, hnone, hstep⟩ | ⟨more, hfound, hnone, hstep⟩
  · exact ⟨_, hstep, h.remove hnone hgone⟩
  · refine ⟨_, hstep, h.add hnone (fun f => mem_found_iff hfound) (found_pairwise hfound) ?_⟩
    intro f g hf hg
    exact hf.unique hg

theorem meaning_nil (yields : InputPattern → SourcePath → Prop) : Meaning yields [] [] := by
  refine ⟨fun display => ?_, List.nodup_nil, List.Pairwise.nil, by simp⟩
  simp [Survives]

/-- A list of patterns that can be read keeps the meaning. -/
theorem Meaning.foldlM {qs : List InputPattern}
    (h : Meaning (Yields t workingDir base) ps files) (hqs : ∀ q ∈ qs, q.mistake? = none) :
    ∃ result, qs.foldlM (Expansion.applyPattern t workingDir base) files = .ok result ∧
      Meaning (Yields t workingDir base) (ps ++ qs) result := by
  induction qs generalizing ps files with
  | nil => exact ⟨files, rfl, by simpa using h⟩
  | cons q rest ih =>
    obtain ⟨next, hstep, hnext⟩ := h.applyPattern (hqs q (by simp))
    obtain ⟨result, hrun, hresult⟩ := ih hnext fun r hr => hqs r (List.mem_cons_of_mem _ hr)
    refine ⟨result, ?_, by simpa using hresult⟩
    rw [List.foldlM_cons, hstep]
    exact hrun

/-- A list of patterns fails by the first one that cannot be read. -/
theorem foldlM_applyPattern_of_mistake {qs : List InputPattern} {e : Failure}
    (h : qs.findSome? InputPattern.mistake? = some e) :
    qs.foldlM (applyPattern t workingDir base) files = .error e := by
  induction qs generalizing files with
  | nil => cases h
  | cons q rest ih =>
    rw [List.foldlM_cons]
    cases hq : q.mistake? with
    | some e' =>
      rw [List.findSome?_cons, hq] at h
      obtain rfl := Option.some.inj h
      rw [applyPattern_of_mistake hq]
      rfl
    | none =>
      rw [List.findSome?_cons, hq] at h
      rcases applyPattern_eq_ok t workingDir base files hq with
        ⟨_, -, -, hstep⟩ | ⟨_, -, -, hstep⟩
      · rw [hstep]
        exact ih h
      · rw [hstep]
        exact ih h

end Run

theorem expand_eq_foldlM (t : FileTree) (workingDir : Location) (base : Path)
    (patterns : List String) :
    expand t workingDir base patterns =
      (patterns.map fun text => InputPattern.ofText text.toList).foldlM
        (applyPattern t workingDir base) [] := by
  rw [expand, List.foldlM_map]

/-- Patterns that can be read have a meaning, and its files come out. -/
theorem exists_expand {t : FileTree} (workingDir : Location) (base : Path)
    {patterns : List String}
    (hread : ∀ text ∈ patterns, (InputPattern.ofText text.toList).mistake? = none) :
    ∃ files, expand t workingDir base patterns = .ok files ∧
      Meaning (Yields t workingDir base) (patterns.map fun text => .ofText text.toList) files := by
  rw [expand_eq_foldlM]
  refine (meaning_nil (Yields t workingDir base)).foldlM fun q hq => ?_
  obtain ⟨text, htext, rfl⟩ := List.mem_map.mp hq
  exact hread text htext

/-- The files that come out are those of the meaning of the patterns, which can be read. -/
theorem meaning_of_expand {t : FileTree} {workingDir : Location} {base : Path}
    {patterns : List String} {files : List SourcePath}
    (h : expand t workingDir base patterns = .ok files) :
    (∀ text ∈ patterns, (InputPattern.ofText text.toList).mistake? = none) ∧
      Meaning (Yields t workingDir base) (patterns.map fun text => .ofText text.toList) files := by
  have hread : ∀ text ∈ patterns, (InputPattern.ofText text.toList).mistake? = none := by
    cases hps : (patterns.map fun text => InputPattern.ofText text.toList).findSome?
        InputPattern.mistake? with
    | none =>
      exact fun text htext => List.findSome?_eq_none_iff.mp hps _ (List.mem_map_of_mem htext)
    | some e =>
      rw [expand_eq_foldlM, foldlM_applyPattern_of_mistake hps] at h
      cases h
  obtain ⟨result, hrun, hmeaning⟩ := exists_expand workingDir base hread
  obtain rfl := Except.ok.inj (hrun.symm.trans h)
  exact ⟨hread, hmeaning⟩

/-- **What patterns stand for.** Below any base directory of a tree:
* if all patterns can be read, the files that come out are those of their meaning;
* expansion fails exactly if one cannot be read, by the mistake of the first such pattern;
* the order in which the tree keeps its entries makes no difference. -/
theorem expand_meaning (t : FileTree) (workingDir : Location) (base : Path)
    (patterns : List String) :
    let ps := patterns.map fun text => InputPattern.ofText text.toList
    ((∀ p ∈ ps, p.mistake? = none) →
      ∃ files, expand t workingDir base patterns = .ok files ∧
        Meaning (Yields t workingDir base) ps files) ∧
    (∀ e, expand t workingDir base patterns = .error e ↔
      ps.findSome? InputPattern.mistake? = some e) ∧
    ∀ t' : FileTree, t'.entries.Perm t.entries →
      expand t' workingDir base patterns = expand t workingDir base patterns := by
  intro ps
  have hread : ∀ u : FileTree, (∀ p ∈ ps, p.mistake? = none) →
      ∃ files, expand u workingDir base patterns = .ok files ∧
        Meaning (Yields u workingDir base) ps files := by
    intro u hps
    rw [expand_eq_foldlM]
    exact (meaning_nil _).foldlM hps
  have hmistake : ∀ (u : FileTree) (e : Failure), ps.findSome? InputPattern.mistake? = some e →
      expand u workingDir base patterns = .error e := by
    intro u e he
    rw [expand_eq_foldlM]
    exact foldlM_applyPattern_of_mistake he
  refine ⟨hread t, fun e => ⟨fun hfailed => ?_, hmistake t e⟩, ?_⟩
  · cases hps : ps.findSome? InputPattern.mistake? with
    | some e' =>
      rw [hmistake t e' hps] at hfailed
      rw [Except.error.inj hfailed]
    | none =>
      obtain ⟨files, hexpand, -⟩ := hread t (List.findSome?_eq_none_iff.mp hps)
      rw [hexpand] at hfailed
      cases hfailed
  · intro t' hperm
    cases hps : ps.findSome? InputPattern.mistake? with
    | some e => rw [hmistake t' e hps, hmistake t e hps]
    | none =>
      have hnone : ∀ p ∈ ps, p.mistake? = none := List.findSome?_eq_none_iff.mp hps
      obtain ⟨files', hexpand', hmeaning'⟩ := hread t' hnone
      obtain ⟨files, hexpand, hmeaning⟩ := hread t hnone
      rw [Yields.eq_of_lookup_eq (FileTree.lookup_eq_of_perm hperm)] at hmeaning'
      rw [hexpand, hexpand', hmeaning'.unique hmeaning]

/-- A file that is taken away and named again moves to the end. -/
theorem expand_meaning_readded :
    let t : FileTree :=
      { entries := ["b.js", "a.js", "c.js"].map fun name => ([name], .file (.text "")) }
    let patterns := ["*.js", "!?.js", "c.js", "[ab].js"]
    let ps := patterns.map fun text => InputPattern.ofText text.toList
    ∃ files, expand t [] ⟨"/"⟩ patterns = .ok files ∧
      files.map SourcePath.display = ["c.js", "a.js", "b.js"] ∧
      Meaning (Yields t [] ⟨"/"⟩) ps files := by
  intro t patterns ps
  obtain ⟨files, hexpand, hmeaning⟩ := (expand_meaning t [] ⟨"/"⟩ patterns).1 (by decide +kernel)
  refine ⟨files, hexpand, ?_, hmeaning⟩
  have hrun : (expand t [] ⟨"/"⟩ patterns).toOption.map (·.map SourcePath.display) =
      some ["c.js", "a.js", "b.js"] := by
    decide +kernel
  rw [hexpand] at hrun
  exact Option.some.inj hrun

end ModuleBundler.Expansion
