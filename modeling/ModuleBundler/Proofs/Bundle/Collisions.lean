/-
# ModuleBundler.Proofs.Bundle.Collisions -- which collisions a bundle reports

A bundle remembers, for each name that it gave, the first file that got it, and reports a
collision when it gives the name again. This module says which collisions a whole run reports,
from the answers for its files alone: `CollidesAt` compares a file with those before it, and
knows nothing of what a bundle remembers.

`Recorded` ties the two together. One push keeps it (`Recorded.push`), so it holds behind every
run, and behind every part of one. Main statement: `collisions_exact`.
-/

import Mathlib.Data.Finset.Card
import Mathlib.Data.List.Forall2
import ModuleBundler.Proofs.Bundle.Run

namespace ModuleBundler.Bundle

variable {o : Options} {files : List SourceFile} {file : SourceFile} {b : Bundle}

/-! ## Names that are given -/

/-- The file at a place of a run was given a name; its display path is `path`. -/
structure NamedAt (o : Options) (files : List SourceFile) (place : Nat) (id : Identifier)
    (path : String) : Prop where
  answer : (({} : Bundle).answers o files)[place]? = some (.ok (.named id))
  path : files[place]?.map (·.path.display) = some path

/-- The name that was given, by the answer for a file. -/
def givenName? : Except RootMissing Outcome → Option Identifier
  | .ok (.named id) => some id
  | _ => none

/-- The names that a run writes into its bundle, in order. -/
def givenNames (o : Options) (files : List SourceFile) : List Identifier :=
  (({} : Bundle).answers o files).filterMap givenName?

theorem givenName?_eq_some_iff {said : Except RootMissing Outcome} {id : Identifier} :
    givenName? said = some id ↔ said = .ok (.named id) := by
  unfold givenName?
  split <;> simp_all

theorem namedAt_iff {place : Nat} {id : Identifier} {path : String} :
    NamedAt o files place id path ↔ ∃ file, files[place]? = some file ∧
      verdict o file = .ok (.named id) ∧ file.path.display = path := by
  constructor
  · rintro ⟨hanswer, hpath⟩
    obtain ⟨file, hfile, rfl⟩ := Option.map_eq_some_iff.mp hpath
    rw [answers_eq_map, List.getElem?_map, hfile] at hanswer
    exact ⟨file, hfile, Option.some.inj hanswer, rfl⟩
  · rintro ⟨file, hfile, hverdict, rfl⟩
    refine ⟨?_, by rw [hfile]; rfl⟩
    rw [answers_eq_map, List.getElem?_map, hfile]
    exact congrArg some hverdict

theorem NamedAt.lt_length {place : Nat} {id : Identifier} {path : String}
    (h : NamedAt o files place id path) : place < files.length := by
  obtain ⟨file, hfile, -⟩ := namedAt_iff.mp h
  exact (List.getElem?_eq_some_iff.mp hfile).1

/-- The names of a longer run are those of the run, and that of its last file. -/
theorem namedAt_snoc_iff {place : Nat} {id : Identifier} {path : String} :
    NamedAt o (files ++ [file]) place id path ↔ NamedAt o files place id path ∨
      place = files.length ∧ verdict o file = .ok (.named id) ∧ file.path.display = path := by
  rw [namedAt_iff, namedAt_iff]
  rcases lt_trichotomy place files.length with hlt | rfl | hgt
  · rw [List.getElem?_append_left hlt]
    simp [hlt.ne]
  · simp
  · rw [List.getElem?_eq_none (by simp; omega), List.getElem?_eq_none (by omega)]
    simp [hgt.ne']

theorem mem_givenNames_iff {id : Identifier} :
    id ∈ givenNames o files ↔ ∃ place path, NamedAt o files place id path := by
  rw [givenNames, answers_eq_map, List.mem_filterMap]
  constructor
  · rintro ⟨said, hsaid, hid⟩
    obtain ⟨file, hfile, rfl⟩ := List.mem_map.mp hsaid
    obtain ⟨place, hplace⟩ := List.mem_iff_getElem?.mp hfile
    exact ⟨place, _, namedAt_iff.mpr ⟨file, hplace, givenName?_eq_some_iff.mp hid, rfl⟩⟩
  · rintro ⟨place, path, h⟩
    obtain ⟨file, hfile, hverdict, -⟩ := namedAt_iff.mp h
    refine ⟨_, List.mem_map_of_mem (List.mem_of_getElem? hfile), ?_⟩
    exact givenName?_eq_some_iff.mpr hverdict

/-! ## Collisions, without a bundle -/

/-- `path` belongs to the first file of a run that was given the name. -/
def FirstNamed (o : Options) (files : List SourceFile) (id : Identifier) (path : String)
    (place : Nat) : Prop :=
  NamedAt o files place id path ∧ ∀ k other, NamedAt o files k id other → place ≤ k

/-- The collision of the file at a place of a run: it was given a name that an earlier file had,
and `c` names the first one. -/
structure CollidesAt (o : Options) (files : List SourceFile) (place : Nat) (c : Collision) :
    Prop where
  named : NamedAt o files place c.id c.duplicate
  earlier : ∃ first < place, FirstNamed o files c.id c.first first

/-- Collisions are those at some places, one for each of them and in order; and every file that
was given the name of an earlier one stands at such a place. -/
structure Reports (o : Options) (files : List SourceFile) (places : List Nat)
    (collisions : List Collision) : Prop where
  ascending : places.Pairwise (· < ·)
  entries : List.Forall₂ (CollidesAt o files) places collisions
  complete : ∀ earlier later id path other, earlier < later → NamedAt o files earlier id path →
    NamedAt o files later id other → later ∈ places

theorem FirstNamed.snoc {id : Identifier} {path : String} {place : Nat}
    (h : FirstNamed o files id path place) : FirstNamed o (files ++ [file]) id path place := by
  refine ⟨namedAt_snoc_iff.mpr (.inl h.1), fun k other hk => ?_⟩
  rcases namedAt_snoc_iff.mp hk with hbefore | ⟨rfl, -⟩
  · exact h.2 k other hbefore
  · exact h.1.lt_length.le

theorem CollidesAt.snoc {place : Nat} {c : Collision} (h : CollidesAt o files place c) :
    CollidesAt o (files ++ [file]) place c := by
  obtain ⟨first, hlt, hfirst⟩ := h.earlier
  exact ⟨namedAt_snoc_iff.mpr (.inl h.named), first, hlt, hfirst.snoc⟩

/-- A file without a name, or with one that no file before it has, adds no collision. -/
theorem Reports.snoc_of_fresh {places : List Nat} {collisions : List Collision}
    (h : Reports o files places collisions)
    (hfresh : ∀ id, verdict o file = .ok (.named id) → ∀ k path, ¬ NamedAt o files k id path) :
    Reports o (files ++ [file]) places collisions := by
  refine ⟨h.ascending, h.entries.imp fun _ _ hc => hc.snoc, ?_⟩
  intro earlier later id path other hlt hearlier hlater
  rcases namedAt_snoc_iff.mp hlater with hbefore | ⟨rfl, hverdict, -⟩
  · rcases namedAt_snoc_iff.mp hearlier with hfirst | ⟨rfl, -⟩
    · exact h.complete earlier later id path other hlt hfirst hbefore
    · have := hbefore.lt_length
      omega
  · rcases namedAt_snoc_iff.mp hearlier with hfirst | ⟨rfl, -⟩
    · exact absurd hfirst (hfresh id hverdict earlier path)
    · omega

/-- A file with a name that was given before adds one collision, behind the others. -/
theorem Reports.snoc_of_known {places : List Nat} {collisions : List Collision} {id : Identifier}
    {path : String} {place : Nat} (h : Reports o files places collisions)
    (hverdict : verdict o file = .ok (.named id)) (hfirst : FirstNamed o files id path place) :
    Reports o (files ++ [file]) (places ++ [files.length])
      (collisions ++ [⟨id, path, file.path.display⟩]) := by
  have hlast : CollidesAt o (files ++ [file]) files.length ⟨id, path, file.path.display⟩ :=
    ⟨namedAt_snoc_iff.mpr (.inr ⟨rfl, hverdict, rfl⟩), place, hfirst.1.lt_length, hfirst.snoc⟩
  have hinside : ∀ p ∈ places, p < files.length :=
    ((List.forall₂_and_left places collisions).mp
      (h.entries.imp fun _ _ hc => ⟨hc.named.lt_length, hc⟩)).1
  refine ⟨?_, ?_, ?_⟩
  · rw [List.pairwise_append]
    refine ⟨h.ascending, List.pairwise_singleton _ _, fun p hp q hq => ?_⟩
    rw [List.mem_singleton.mp hq]
    exact hinside p hp
  · exact List.rel_append (h.entries.imp fun _ _ hc => hc.snoc) (.cons hlast .nil)
  · intro earlier later id' path' other hlt hearlier hlater
    rcases namedAt_snoc_iff.mp hlater with hbefore | ⟨rfl, -⟩
    · rcases namedAt_snoc_iff.mp hearlier with hfirst' | ⟨rfl, -⟩
      · exact List.mem_append_left _ (h.complete earlier later id' path' other hlt hfirst' hbefore)
      · have := hbefore.lt_length
        omega
    · simp

/-! ## What a bundle remembers -/

/-- What a bundle remembers and has reported agrees with a run of files. -/
structure Recorded (o : Options) (files : List SourceFile) (b : Bundle) : Prop where
  known : ∀ id path, b.firstNamed? id = some path → ∃ place, FirstNamed o files id path place
  unknown : ∀ id, b.firstNamed? id = none → ∀ place path, ¬ NamedAt o files place id path
  reported : ∃ places, Reports o files places b.collisions
  distinct : (b.named.map Prod.fst).Nodup
  counted : b.modules = b.collisions.length + b.named.length

theorem firstNamed?_eq_none_iff {id : Identifier} :
    b.firstNamed? id = none ↔ id ∉ b.named.map Prod.fst := by
  rw [firstNamed?, Option.map_eq_none_iff, List.find?_eq_none, List.mem_map]
  constructor
  · rintro h ⟨entry, hentry, rfl⟩
    exact h entry hentry (beq_self_eq_true _)
  · intro h entry hentry heq
    exact h ⟨entry, hentry, eq_of_beq heq⟩

theorem firstNamed?_of_named {b' : Bundle} (h : b'.named = b.named) (id : Identifier) :
    b'.firstNamed? id = b.firstNamed? id := by
  rw [firstNamed?, firstNamed?, h]

theorem firstNamed?_of_snoc {b' : Bundle} {id : Identifier} {path : String}
    (h : b'.named = b.named ++ [(id, path)]) (other : Identifier) :
    b'.firstNamed? other = (b.firstNamed? other).or (if id = other then some path else none) := by
  rw [firstNamed?, firstNamed?, h, List.find?_append]
  cases b.named.find? fun entry => entry.1 == other with
  | some entry => rfl
  | none => by_cases hid : id = other <;> simp [hid]

/-- A file that is given no name leaves what a bundle remembers. -/
theorem push_of_unnamed (h : ∀ id, verdict o file ≠ .ok (.named id)) :
    (b.push o file).2.named = b.named ∧ (b.push o file).2.collisions = b.collisions ∧
      (b.push o file).2.modules = b.modules := by
  unfold verdict at h
  unfold push
  cases hc : contribution o file with
  | error e => exact ⟨rfl, rfl, rfl⟩
  | ok c =>
    obtain ⟨outcome, piece⟩ := c
    cases outcome with
    | concatenated => exact ⟨rfl, rfl, rfl⟩
    | alreadyNamed => exact ⟨rfl, rfl, rfl⟩
    | named id => exact absurd (by rw [hc]; rfl) (h id)

/-- A file that is given a name is remembered, or a collision is reported. -/
theorem push_of_named {id : Identifier} (h : verdict o file = .ok (.named id)) :
    (b.push o file).2.named = (b.record id file.path.display).named ∧
      (b.push o file).2.collisions = (b.record id file.path.display).collisions ∧
      (b.push o file).2.modules = b.modules + 1 := by
  unfold verdict at h
  unfold push
  cases hc : contribution o file with
  | error e =>
    rw [hc] at h
    cases h
  | ok c =>
    rw [hc] at h
    obtain ⟨outcome, piece⟩ := c
    obtain rfl : outcome = .named id := Except.ok.inj h
    -- What is counted and written before does not change what is looked up.
    have hlookup (text : String) (n : Nat) :
        ({ b with files := n, content := text } : Bundle).firstNamed? id = b.firstNamed? id := rfl
    show (({ b with files := b.files + 1, content := b.content ++ piece } : Bundle).record id
        file.path.display).named = _ ∧
      (({ b with files := b.files + 1, content := b.content ++ piece } : Bundle).record id
        file.path.display).collisions = _ ∧ b.modules + 1 = b.modules + 1
    unfold record
    rw [hlookup]
    cases b.firstNamed? id with
    | none => exact ⟨rfl, rfl, rfl⟩
    | some first => exact ⟨rfl, rfl, rfl⟩

namespace Recorded

theorem nil : Recorded o [] {} where
  known := by
    intro id path h
    cases h
  unknown := by
    intro id _ place path h
    exact absurd h.lt_length (Nat.not_lt_zero _)
  reported := by
    refine ⟨[], .nil, .nil, ?_⟩
    intro earlier later id path other _ h _
    exact absurd h.lt_length (Nat.not_lt_zero _)
  distinct := List.nodup_nil
  counted := rfl

theorem known_snoc (h : Recorded o files b) {id : Identifier} {path : String}
    (hfirst : b.firstNamed? id = some path) :
    ∃ place, FirstNamed o (files ++ [file]) id path place := by
  obtain ⟨place, hplace⟩ := h.known id path hfirst
  exact ⟨place, hplace.snoc⟩

/-- Where no new name was given, what is remembered agrees with the longer run as well. -/
theorem of_named_eq {b' : Bundle} (h : Recorded o files b) (hnamed : b'.named = b.named)
    (hknown : ∀ id, verdict o file = .ok (.named id) → b.firstNamed? id ≠ none)
    (hreported : ∃ places, Reports o (files ++ [file]) places b'.collisions)
    (hcounted : b'.modules = b'.collisions.length + b.named.length) :
    Recorded o (files ++ [file]) b' := by
  refine ⟨?known, ?unknown, hreported, ?distinct, ?counted⟩
  case known =>
    intro id path hfirst
    rw [firstNamed?_of_named hnamed] at hfirst
    exact h.known_snoc hfirst
  case unknown =>
    intro id hnone place path hplace
    rw [firstNamed?_of_named hnamed] at hnone
    rcases namedAt_snoc_iff.mp hplace with hbefore | ⟨-, hverdict, -⟩
    · exact h.unknown id hnone place path hbefore
    · exact hknown id hverdict hnone
  case distinct =>
    rw [hnamed]
    exact h.distinct
  case counted => rw [hcounted, hnamed]

/-- A file without a name: nothing is remembered or reported. -/
theorem push_unnamed (h : Recorded o files b) (hnot : ∀ id, verdict o file ≠ .ok (.named id)) :
    Recorded o (files ++ [file]) (b.push o file).2 := by
  obtain ⟨hnamed, hcollisions, hmodules⟩ := push_of_unnamed (b := b) hnot
  obtain ⟨places, hreports⟩ := h.reported
  refine h.of_named_eq hnamed ?_ ?_ ?_
  · intro id hverdict
    exact absurd hverdict (hnot id)
  · rw [hcollisions]
    exact ⟨places, hreports.snoc_of_fresh fun id hverdict => absurd hverdict (hnot id)⟩
  · rw [hmodules, hcollisions, h.counted]

/-- A name that was given before: it is remembered as it was, and a collision is reported. -/
theorem push_known {id : Identifier} {path : String} (h : Recorded o files b)
    (hverdict : verdict o file = .ok (.named id)) (hfirst : b.firstNamed? id = some path) :
    Recorded o (files ++ [file]) (b.push o file).2 := by
  obtain ⟨hnamed, hcollisions, hmodules⟩ := push_of_named (b := b) hverdict
  obtain ⟨places, hreports⟩ := h.reported
  obtain ⟨first, hplace⟩ := h.known id path hfirst
  simp only [record, hfirst] at hnamed hcollisions
  refine h.of_named_eq hnamed ?_ ?_ ?_
  · intro other hother
    rw [hverdict] at hother
    obtain rfl : id = other := Outcome.named.inj (Except.ok.inj hother)
    rw [hfirst]
    exact Option.some_ne_none path
  · rw [hcollisions]
    exact ⟨_, hreports.snoc_of_known hverdict hplace⟩
  · rw [hmodules, hcollisions, h.counted, List.length_append, List.length_singleton]
    omega

/-- A new name: it is remembered with this file, and nothing is reported. -/
theorem push_fresh {id : Identifier} (h : Recorded o files b)
    (hverdict : verdict o file = .ok (.named id)) (hfirst : b.firstNamed? id = none) :
    Recorded o (files ++ [file]) (b.push o file).2 := by
  obtain ⟨hnamed, hcollisions, hmodules⟩ := push_of_named (b := b) hverdict
  obtain ⟨places, hreports⟩ := h.reported
  simp only [record, hfirst] at hnamed hcollisions
  have hfresh := h.unknown id hfirst
  have hlast : FirstNamed o (files ++ [file]) id file.path.display files.length := by
    refine ⟨namedAt_snoc_iff.mpr (.inr ⟨rfl, hverdict, rfl⟩), fun k other hk => ?_⟩
    rcases namedAt_snoc_iff.mp hk with hbefore | ⟨rfl, -⟩
    · exact absurd hbefore (hfresh k other)
    · exact le_rfl
  refine ⟨?known, ?unknown, ?reported, ?distinct, ?counted⟩
  case known =>
    intro other q hother
    rw [firstNamed?_of_snoc hnamed, Option.or_eq_some_iff] at hother
    rcases hother with hbefore | ⟨-, hnew⟩
    · exact h.known_snoc hbefore
    · obtain ⟨rfl, hq⟩ := Option.ite_none_right_eq_some.mp hnew
      cases hq
      exact ⟨_, hlast⟩
  case unknown =>
    intro other hnone place q hplace
    rw [firstNamed?_of_snoc hnamed, Option.or_eq_none_iff] at hnone
    rcases namedAt_snoc_iff.mp hplace with hbefore | ⟨-, hother, -⟩
    · exact h.unknown other hnone.1 place q hbefore
    · rw [hverdict] at hother
      obtain rfl : id = other := Outcome.named.inj (Except.ok.inj hother)
      rw [if_pos rfl] at hnone
      cases hnone.2
  case reported =>
    rw [hcollisions]
    refine ⟨places, hreports.snoc_of_fresh fun other hother k q => ?_⟩
    rw [hverdict] at hother
    obtain rfl : id = other := Outcome.named.inj (Except.ok.inj hother)
    exact hfresh k q
  case distinct =>
    have hnew : id ∉ b.named.map Prod.fst := firstNamed?_eq_none_iff.mp hfirst
    rw [hnamed, List.map_append]
    show (b.named.map Prod.fst ++ [id]).Nodup
    rw [← List.concat_eq_append]
    exact h.distinct.concat hnew
  case counted =>
    rw [hmodules, hnamed, hcollisions, h.counted, List.length_append, List.length_singleton]
    omega

/-- A bundle still agrees with the run when one more file is added. -/
theorem push (h : Recorded o files b) (file : SourceFile) :
    Recorded o (files ++ [file]) (b.push o file).2 := by
  by_cases hnamed : ∃ id, verdict o file = .ok (.named id)
  · obtain ⟨id, hverdict⟩ := hnamed
    cases hfirst : b.firstNamed? id with
    | some path => exact h.push_known hverdict hfirst
    | none => exact h.push_fresh hverdict hfirst
  · exact h.push_unnamed fun id hid => hnamed ⟨id, hid⟩

/-- What a bundle remembers and has reported agrees with the run behind it. -/
theorem run (o : Options) (files : List SourceFile) :
    Recorded o files (({} : Bundle).pushAll o files) := by
  induction files using List.reverseRecOn with
  | nil => exact nil
  | append_singleton files file ih =>
    rw [pushAll, List.foldl_append]
    exact ih.push file

/-! ## Distinct names -/

/-- The names remembered are those that were given. -/
theorem mem_named_iff (h : Recorded o files b) {id : Identifier} :
    id ∈ b.named.map Prod.fst ↔ id ∈ givenNames o files := by
  rw [mem_givenNames_iff]
  constructor
  · intro hmem
    cases hfirst : b.firstNamed? id with
    | none => exact absurd hmem (firstNamed?_eq_none_iff.mp hfirst)
    | some path =>
      obtain ⟨place, hplace⟩ := h.known id path hfirst
      exact ⟨place, path, hplace.1⟩
  · rintro ⟨place, path, hplace⟩
    by_contra hnot
    exact h.unknown id (firstNamed?_eq_none_iff.mpr hnot) place path hplace

theorem card_givenNames (h : Recorded o files b) :
    (givenNames o files).toFinset.card = b.named.length := by
  have hsame : (givenNames o files).toFinset = (b.named.map Prod.fst).toFinset := by
    ext id
    rw [List.mem_toFinset, List.mem_toFinset, h.mem_named_iff]
  rw [hsame, List.toFinset_card_of_nodup h.distinct, List.length_map]

end Recorded

/-- As many modules are counted as names are given. -/
theorem length_givenNames (o : Options) (files : List SourceFile) :
    (givenNames o files).length = (({} : Bundle).pushAll o files).modules := by
  have hgave : gaveName = fun said => (givenName? said).isSome := by
    funext said
    cases said with
    | error e => rfl
    | ok outcome => cases outcome <;> rfl
  rw [(pushAll_snd {} o files).2.2, givenNames, answers_eq_map, hgave,
    List.length_filterMap_eq_countP]
  show _ = 0 + _
  rw [Nat.zero_add]

/-- **Reported collisions.** The collisions of a bundle are exactly those of its run: in order,
one for each file that was given the name of an earlier file, with the first such file. So there
are none exactly when the names given are distinct, and apart from them every module that is
counted has a name of its own. -/
theorem collisions_exact (o : Options) (files : List SourceFile) :
    let b := ({} : Bundle).pushAll o files
    (∃ places, Reports o files places b.collisions) ∧
      (b.collisions = [] ↔ (givenNames o files).Nodup) ∧
      b.modules = b.collisions.length + (givenNames o files).toFinset.card := by
  intro b
  have h : Recorded o files b := Recorded.run o files
  have hcounted := h.counted
  have hcard := h.card_givenNames
  have hlength : (givenNames o files).length = b.modules := length_givenNames o files
  refine ⟨h.reported, ?_, by omega⟩
  rw [← Multiset.coe_nodup, ← Multiset.toFinset_card_eq_card_iff_nodup, ← List.length_eq_zero_iff]
  show b.collisions.length = 0 ↔ (givenNames o files).toFinset.card = (givenNames o files).length
  omega

/-- Three files with one name, and between them one that is refused: the two later ones are
reported, each with the first. -/
example :
    (({} : Bundle).pushAll { root := "amd/" }
      [⟨⟨"amd/A.js", ⟨"amd/A.js"⟩⟩, "define([], function () {});"⟩,
        ⟨⟨"A.js", ⟨"A.js"⟩⟩, "define([], function () {});"⟩,
        ⟨⟨"old/amd/A.js", ⟨"old/amd/A.js"⟩⟩, "define([], function () {});"⟩,
        ⟨⟨"amd/A.mjs", ⟨"amd/A.mjs"⟩⟩, "define([], function () {});"⟩]).collisions =
      [⟨⟨"A"⟩, "amd/A.js", "old/amd/A.js"⟩, ⟨⟨"A"⟩, "amd/A.js", "amd/A.mjs"⟩] := by
  decide +kernel

end ModuleBundler.Bundle
