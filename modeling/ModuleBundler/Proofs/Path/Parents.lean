/-
# ModuleBundler.Proofs.Path.Parents -- the way up from an absolute path

The parents of a path are read off its text, from the last slash to the first. Those of an
absolute path are what its components say: each is a component shorter than the one before, down
to the root directory (`components_ancestors`), and going on from a parent gives the parents that
are left (`parents_eq_cons`).

The way up passes silent pieces over, so it does not lead back to a path that ends in one, as
`/a/` and `/a/.` do, but to that path without them (`trimmed`). The parents of a name in a
directory start with the directory, trimmed (`parents_join_name`).

The pieces are taken as the way up meets them, the last one first; the inductions are on them.
-/

import Mathlib.Data.List.Infix
import ModuleBundler.Proofs.Path.Naming

namespace ModuleBundler.Path

open Text (splitOn joinWith)

/-! ## Paths by their pieces -/

/-- The pieces behind the first slash of a path, the last one first. -/
def piecesUp (p : Path) : List (List Char) :=
  p.segments.tail.reverse

variable {p q : Path} {piece : List Char} {pieces : List (List Char)}

theorem no_slash_of_mem_piecesUp (h : piece ∈ p.piecesUp) : '/' ∉ piece :=
  Text.not_mem_of_mem_splitOn (List.mem_of_mem_tail (List.mem_reverse.mp h))

theorem segments_of_isAbsolute (h : p.isAbsolute = true) :
    p.segments = [] :: p.piecesUp.reverse ∧ p.piecesUp ≠ [] := by
  obtain ⟨back, hback⟩ := exists_slash_of_isAbsolute h
  have hsegments : p.segments = [] :: splitOn '/' back := by
    rw [segments, hback]
    rfl
  rw [piecesUp, hsegments, List.tail_cons, List.reverse_reverse]
  refine ⟨rfl, ?_⟩
  intro hnil
  exact Text.splitOn_ne_nil '/' back (List.reverse_eq_nil_iff.mp hnil)

/-- An absolute path is what its pieces are put together to. -/
theorem ofReversed_piecesUp (h : p.isAbsolute = true) : ofReversed [] p.piecesUp = p := by
  obtain ⟨hsegments, hne⟩ := segments_of_isAbsolute h
  have htext : joinWith '/' ([] :: p.piecesUp.reverse) = p.text.toList := by
    rw [← hsegments, segments, Text.joinWith_splitOn]
  unfold ofReversed
  rw [if_neg (by simp [hne]), htext, String.ofList_toList]

theorem isAbsolute_ofReversed : (ofReversed [] pieces).isAbsolute = true := by
  unfold ofReversed
  split
  · rfl
  · next hne =>
    have hreverse : pieces.reverse ≠ [] := by simpa using hne
    rw [Text.joinWith_cons '/' [] hreverse]
    simp [isAbsolute]

theorem segments_ofReversed (hne : pieces ≠ []) (hslash : ∀ piece ∈ pieces, '/' ∉ piece) :
    (ofReversed [] pieces).segments = [] :: pieces.reverse := by
  have hpieces : ∀ piece ∈ [] :: pieces.reverse, '/' ∉ piece := by
    intro piece hpiece
    rcases List.mem_cons.mp hpiece with rfl | hmem
    · simp
    · exact hslash piece (List.mem_reverse.mp hmem)
  unfold ofReversed
  rw [if_neg (by simp [hne]), segments, String.toList_ofList,
    Text.splitOn_joinWith (by simp) hpieces]

theorem components_ofReversed (hslash : ∀ piece ∈ pieces, '/' ∉ piece) :
    (ofReversed [] pieces).components =
      .root :: ((pieces.filter (!isSilent ·)).map component).reverse := by
  by_cases hne : pieces = []
  · rw [hne]
    decide
  · have hrest : pieces.reverse.isEmpty = false := by simpa using hne
    simp [components, segments_ofReversed hne hslash, leading, hrest]

/-! ## The way up -/

/-- The parents of a path, by its pieces. -/
theorem parents_ofReversed (hslash : ∀ piece ∈ pieces, '/' ∉ piece) :
    (ofReversed [] pieces).parents =
      match pieces.dropWhile isSilent with
      | [] => []
      | _ :: before => upFrom [] before := by
  by_cases hne : pieces = []
  · rw [hne]
    decide
  · rw [parents, segments_ofReversed hne hslash]
    dsimp only
    rw [List.reverse_reverse]
    cases pieces.dropWhile isSilent <;> rfl

theorem parents_ofReversed_silent (hslash : ∀ other ∈ piece :: pieces, '/' ∉ other)
    (h : isSilent piece = true) :
    (ofReversed [] (piece :: pieces)).parents = (ofReversed [] pieces).parents := by
  rw [parents_ofReversed hslash, parents_ofReversed (List.forall_mem_of_forall_mem_cons hslash),
    List.dropWhile_cons_of_pos h]

theorem dropWhile_silent_dropWhile (pieces : List (List Char)) :
    (pieces.dropWhile isSilent).dropWhile isSilent = pieces.dropWhile isSilent := by
  induction pieces with
  | nil => rfl
  | cons piece before ih =>
    by_cases h : isSilent piece = true
    · rw [List.dropWhile_cons_of_pos h, ih]
    · rw [List.dropWhile_cons_of_neg h, List.dropWhile_cons_of_neg h]

theorem no_slash_dropWhile (hslash : ∀ piece ∈ pieces, '/' ∉ piece) :
    ∀ piece ∈ pieces.dropWhile isSilent, '/' ∉ piece :=
  fun piece hpiece => hslash piece ((List.dropWhile_sublist isSilent).subset hpiece)

/-- Silent pieces at the end count neither for the parents nor for the components. -/
theorem parents_ofReversed_dropWhile (hslash : ∀ piece ∈ pieces, '/' ∉ piece) :
    (ofReversed [] (pieces.dropWhile isSilent)).parents = (ofReversed [] pieces).parents := by
  rw [parents_ofReversed (no_slash_dropWhile hslash), parents_ofReversed hslash,
    dropWhile_silent_dropWhile]

theorem components_ofReversed_dropWhile (hslash : ∀ piece ∈ pieces, '/' ∉ piece) :
    (ofReversed [] (pieces.dropWhile isSilent)).components =
      (ofReversed [] pieces).components := by
  have hfilter : (pieces.dropWhile isSilent).filter (!isSilent ·) =
      pieces.filter (!isSilent ·) := by
    induction pieces with
    | nil => rfl
    | cons piece before ih =>
      by_cases h : isSilent piece = true
      · rw [List.dropWhile_cons_of_pos h, ih (List.forall_mem_of_forall_mem_cons hslash)]
        simp [h]
      · rw [List.dropWhile_cons_of_neg h]
  rw [components_ofReversed (no_slash_dropWhile hslash), components_ofReversed hslash, hfilter]

/-- What is met on the way up: first the path itself, without silent pieces at its end. -/
theorem upFrom_eq (hslash : ∀ piece ∈ pieces, '/' ∉ piece) :
    upFrom [] pieces =
      ofReversed [] (pieces.dropWhile isSilent) :: (ofReversed [] pieces).parents := by
  induction pieces with
  | nil => decide
  | cons piece before ih =>
    have hbefore := List.forall_mem_of_forall_mem_cons hslash
    by_cases h : isSilent piece = true
    · rw [upFrom, if_pos h, ih hbefore, List.dropWhile_cons_of_pos h,
        parents_ofReversed_silent hslash h]
    · rw [upFrom, if_neg h, List.dropWhile_cons_of_neg h, parents_ofReversed hslash,
        List.dropWhile_cons_of_neg h]

theorem parents_ofReversed_cons (hslash : ∀ other ∈ piece :: pieces, '/' ∉ other)
    (h : isSilent piece = false) :
    (ofReversed [] (piece :: pieces)).parents =
      ofReversed [] (pieces.dropWhile isSilent) :: (ofReversed [] pieces).parents := by
  rw [parents_ofReversed hslash, List.dropWhile_cons_of_neg (by simp [h]),
    ← upFrom_eq (List.forall_mem_of_forall_mem_cons hslash)]

theorem components_ofReversed_cons (hslash : ∀ other ∈ piece :: pieces, '/' ∉ other)
    (h : isSilent piece = false) :
    (ofReversed [] (piece :: pieces)).components =
      (ofReversed [] pieces).components ++ [component piece] := by
  rw [components_ofReversed hslash,
    components_ofReversed (List.forall_mem_of_forall_mem_cons hslash)]
  simp [h]

theorem components_ofReversed_silent (hslash : ∀ other ∈ piece :: pieces, '/' ∉ other)
    (h : isSilent piece = true) :
    (ofReversed [] (piece :: pieces)).components = (ofReversed [] pieces).components := by
  rw [components_ofReversed hslash,
    components_ofReversed (List.forall_mem_of_forall_mem_cons hslash)]
  simp [h]

/-! ## Silent pieces at the end -/

/-- A path without silent pieces at its end. -/
def trimmed (p : Path) : Path :=
  ofReversed [] (p.piecesUp.dropWhile isSilent)

theorem trimmed_ofReversed (hslash : ∀ piece ∈ pieces, '/' ∉ piece) :
    (ofReversed [] pieces).trimmed = ofReversed [] (pieces.dropWhile isSilent) := by
  by_cases hne : pieces = []
  · rw [hne]
    decide
  · rw [trimmed, piecesUp, segments_ofReversed hne hslash, List.tail_cons, List.reverse_reverse]

theorem components_trimmed (h : p.isAbsolute = true) : p.trimmed.components = p.components := by
  rw [trimmed, components_ofReversed_dropWhile fun _ => no_slash_of_mem_piecesUp,
    ofReversed_piecesUp h]

theorem trimmed_eq_self (h : p.isAbsolute = true)
    (hspoken : ∀ piece ∈ p.piecesUp, isSilent piece = false) : p.trimmed = p := by
  have hkept : p.piecesUp.dropWhile isSilent = p.piecesUp := by
    cases hpieces : p.piecesUp with
    | nil => rfl
    | cons piece before =>
      have hlast := hspoken piece (hpieces ▸ List.mem_cons_self)
      exact List.dropWhile_cons_of_neg (by simp [hlast])
  rw [trimmed, hkept, ofReversed_piecesUp h]

/-! ## Parents of an absolute path -/

/-- Up from a path, by what its components are: nothing is above the root directory, and what is
above any other path has all but the last of its components. -/
theorem parent_cases (h : p.isAbsolute = true) :
    (p.parents = [] ∧ p.components = [.root]) ∨
    ∃ (q : Path) (last : Component), q.isAbsolute = true ∧ q.trimmed = q ∧
      p.parents = q :: q.parents ∧ p.components = q.components ++ [last] := by
  have hpieces : ∀ pieces : List (List Char), (∀ piece ∈ pieces, '/' ∉ piece) →
      ((ofReversed [] pieces).parents = [] ∧ (ofReversed [] pieces).components = [.root]) ∨
      ∃ (q : Path) (last : Component), q.isAbsolute = true ∧ q.trimmed = q ∧
        (ofReversed [] pieces).parents = q :: q.parents ∧
        (ofReversed [] pieces).components = q.components ++ [last] := by
    intro pieces hslash
    induction pieces with
    | nil => exact .inl (by decide)
    | cons piece before ih =>
      have hbefore := List.forall_mem_of_forall_mem_cons hslash
      cases hsilent : isSilent piece with
      | true =>
        rw [parents_ofReversed_silent hslash hsilent, components_ofReversed_silent hslash hsilent]
        exact ih hbefore
      | false =>
        refine .inr ⟨ofReversed [] (before.dropWhile isSilent), component piece,
          isAbsolute_ofReversed, ?_, ?_, ?_⟩
        · rw [trimmed_ofReversed (no_slash_dropWhile hbefore), dropWhile_silent_dropWhile]
        · rw [parents_ofReversed_cons hslash hsilent, parents_ofReversed_dropWhile hbefore]
        · rw [components_ofReversed_cons hslash hsilent, components_ofReversed_dropWhile hbefore]
  rw [← ofReversed_piecesUp h]
  exact hpieces p.piecesUp fun piece hpiece => no_slash_of_mem_piecesUp hpiece

/-- Induction on the way up, which ends as each parent has a component less. -/
theorem parent_induction {motive : (p : Path) → p.isAbsolute = true → Prop}
    (root : ∀ p h, p.parents = [] → p.components = [.root] → motive p h)
    (step : ∀ p q last h hq, q.trimmed = q → p.parents = q :: q.parents →
      p.components = q.components ++ [last] → motive q hq → motive p h)
    (p : Path) (h : p.isAbsolute = true) : motive p h := by
  rcases parent_cases h with ⟨hnone, hcomponents⟩ |
    ⟨q, last, habsolute, htrimmed, hparents, hcomponents⟩
  · exact root p h hnone hcomponents
  · apply step p q last h habsolute htrimmed hparents hcomponents
    exact parent_induction root step q habsolute
termination_by p.components.length
decreasing_by
  rw [hcomponents, List.length_append]
  exact Nat.lt_succ_self _

/-- Going on from the parent gives the parents that are left. -/
theorem parents_eq_cons (h : p.isAbsolute = true) (hparent : p.parent? = some q) :
    p.parents = q :: q.parents ∧ q.isAbsolute = true ∧
      q.components.length + 1 = p.components.length := by
  rcases parent_cases h with ⟨hnone, -⟩ | ⟨q', last, habsolute, -, hparents, hcomponents⟩
  · rw [parent?, hnone] at hparent
    cases hparent
  · rw [parent?, hparents] at hparent
    cases hparent
    refine ⟨hparents, habsolute, ?_⟩
    rw [hcomponents, List.length_append]
    rfl

/-- A path and its parents have the first components of the path: all of them, all but the last
one, and so on down to the root directory alone. -/
theorem components_ancestors (h : p.isAbsolute = true) :
    (p :: p.parents).map components = p.components.inits.tail.reverse := by
  induction p, h using parent_induction with
  | root p h hnone hcomponents => rw [hnone, List.map_singleton, hcomponents]; rfl
  | step p q last h hq htrimmed hparents hcomponents ih =>
    have hsome : q.components.inits ≠ [] := by cases q.components <;> simp
    rw [List.map_cons, hparents, ih, hcomponents, List.inits_append,
      List.tail_append_of_ne_nil hsome]
    simp

/-- The components get fewer on the way up. -/
theorem pairwise_ancestors (h : p.isAbsolute = true) :
    (p :: p.parents).Pairwise fun d above => above.components.length < d.components.length := by
  induction p, h using parent_induction with
  | root p h hnone hcomponents =>
    rw [hnone]
    exact List.pairwise_singleton _ p
  | step p q last h hq htrimmed hparents hcomponents ih =>
    rw [hparents]
    apply List.Pairwise.cons _ ih
    intro above habove
    have hlength : p.components.length = q.components.length + 1 := by
      rw [hcomponents, List.length_append]
      rfl
    rcases List.mem_cons.mp habove with rfl | hmem
    · omega
    · have hless := List.rel_of_pairwise_cons ih hmem
      omega

/-- Parents are absolute, and without silent pieces at their end. -/
theorem trimmed_of_mem_parents (h : p.isAbsolute = true) (hq : q ∈ p.parents) :
    q.isAbsolute = true ∧ q.trimmed = q := by
  induction p, h using parent_induction with
  | root p h hnone hcomponents =>
    rw [hnone] at hq
    cases hq
  | step p r last h hr htrimmed hparents hcomponents ih =>
    rw [hparents] at hq
    rcases List.mem_cons.mp hq with rfl | hmem
    · exact ⟨hr, htrimmed⟩
    · exact ih hmem

theorem isAbsolute_of_mem_ancestors (h : p.isAbsolute = true) (hq : q ∈ p :: p.parents) :
    q.isAbsolute = true := by
  rcases List.mem_cons.mp hq with rfl | hparent
  · exact h
  · exact (trimmed_of_mem_parents h hparent).1

/-! ## The directory of a name -/

theorem isSilent_name {name : String} (hname : IsName name) (hdot : name ≠ ".") :
    isSilent name.toList = false := by
  refine isSilent_eq_false_iff.mpr ⟨hname.toList_ne_nil, ?_⟩
  intro hsame
  exact hdot (String.toList_inj.mp hsame)

theorem text_ne_empty_of_isAbsolute (h : p.isAbsolute = true) : p.text ≠ "" := by
  intro hempty
  rw [isAbsolute, hempty] at h
  cases h

/-- The pieces of a name in a directory: the name, and those of the directory. A slash at the end
of the directory is the one in front of the name. -/
theorem exists_piecesUp_join_name (h : p.isAbsolute = true) {name : String} (hname : IsName name) :
    ∃ before, (p.join ⟨name⟩).piecesUp = name.toList :: before ∧
      (p.piecesUp = before ∨ p.piecesUp = [] :: before) := by
  obtain ⟨front, hjoin, hfront⟩ :=
    exists_front_of_join (text_ne_empty_of_isAbsolute h) (isAbsolute_name hname)
  have hne := Text.splitOn_ne_nil '/' front
  refine ⟨(splitOn '/' front).tail.reverse, ?_, ?_⟩
  · rw [piecesUp, segments, hjoin, Text.splitOn_append_mark,
      Text.splitOn_of_not_mem hname.no_slash, List.tail_append_of_ne_nil hne, List.reverse_append]
    rfl
  · rcases hfront with hwhole | hslash
    · exact .inl (by rw [piecesUp, segments, hwhole])
    · right
      rw [piecesUp, segments, hslash, Text.splitOn_append_mark, List.tail_append_of_ne_nil hne,
        List.reverse_append]
      rfl

/-- The parents of a name in a directory: the directory, and its own parents. -/
theorem parents_join_name (h : p.isAbsolute = true) {name : String} (hname : IsName name)
    (hdot : name ≠ ".") : (p.join ⟨name⟩).parents = p.trimmed :: p.parents := by
  have hspoken := isSilent_name hname hdot
  have hslash : ∀ piece ∈ p.piecesUp, '/' ∉ piece := fun _ => no_slash_of_mem_piecesUp
  obtain ⟨before, hjoin, hbefore⟩ := exists_piecesUp_join_name h hname
  have hnamed : ∀ piece ∈ name.toList :: before, '/' ∉ piece := by
    rw [← hjoin]
    exact fun _ => no_slash_of_mem_piecesUp
  have hup : upFrom [] before = upFrom [] p.piecesUp := by
    rcases hbefore with hsame | hsilent
    · rw [hsame]
    · rw [hsilent]
      rfl
  have habsolute : (p.join ⟨name⟩).isAbsolute = true := by
    rw [isAbsolute_join (text_ne_empty_of_isAbsolute h) (isAbsolute_name hname), h]
  calc (p.join ⟨name⟩).parents
      = (ofReversed [] (name.toList :: before)).parents := by
        rw [← hjoin, ofReversed_piecesUp habsolute]
    _ = upFrom [] before := by
        rw [parents_ofReversed_cons hnamed hspoken,
          ← upFrom_eq (List.forall_mem_of_forall_mem_cons hnamed)]
    _ = p.trimmed :: p.parents := by
        rw [hup, upFrom_eq hslash, ofReversed_piecesUp h, trimmed]

end ModuleBundler.Path
