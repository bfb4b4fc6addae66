/-
# ModuleBundler.Proofs.Path.Canonical -- display paths as keys

Files are found twice, and taken away again, by their display paths: the normal texts of their
paths. These are worth as much as the components. A normal text is made of the pieces between
the slashes of the path, without the empty ones and those that are `.`; what is left, `..`
included, keeps its order (`toList_normalText`). So the components can be read back from it, and
two paths have one normal text exactly if they have the same components, a leading `.` apart
(`normalText_eq_iff`).

Nothing is looked up: `a/../b` and `b` are two keys, and stay so for one file.
-/

import ModuleBundler.Proofs.Path.Course

namespace ModuleBundler.Path

open Text (splitOn joinWith)

/-! ## The pieces of a normal text -/

/-- The pieces of a path that stand for a component: not the empty ones, and no `.`. -/
def pieces (p : Path) : List (List Char) :=
  p.segments.filter fun segment => segment ≠ [] ∧ segment ≠ ['.']

theorem pieces_eq (p : Path) : p.pieces = p.segments.filter (!isSilent ·) := by
  apply List.filter_congr
  intro segment _
  rw [Bool.eq_iff_iff, decide_eq_true_iff, Bool.not_eq_true', isSilent_eq_false_iff]

theorem piece_of_mem {p : Path} {piece : List Char} (h : piece ∈ p.pieces) :
    piece ≠ [] ∧ piece ≠ ['.'] ∧ '/' ∉ piece := by
  obtain ⟨hsegment, hspoken⟩ := List.mem_filter.mp h
  obtain ⟨hempty, hdot⟩ := of_decide_eq_true hspoken
  exact ⟨hempty, hdot, Text.not_mem_of_mem_splitOn hsegment⟩

/-- The components behind the root directory are those of the pieces. -/
theorem segments_furtherComponents (p : Path) :
    (furtherComponents p.text.toList).map Component.segment = p.pieces := by
  have hsegment : Component.segment ∘ component = id := funext segment_component
  rw [furtherComponents, List.map_map, hsegment, List.map_id, pieces_eq]
  rfl

/-- A normal text is a slash, if the path starts with one, and the pieces of the path with single
slashes between them. -/
theorem toList_normalText (p : Path) :
    p.normalText.toList = (if p.isAbsolute then ['/'] else []) ++ joinWith '/' p.pieces := by
  have hsteps : ∀ c ∈ furtherComponents p.text.toList, c.IsStep := fun c hc =>
    isStep_of_mem_furtherComponents hc
  rw [normalText, ← textOfComponents_filter, ← course, ← segments_furtherComponents]
  cases habsolute : p.isAbsolute with
  | true => rw [course_of_absolute habsolute, toList_textOfComponents_root hsteps]; rfl
  | false => rw [course_of_relative habsolute, toList_textOfComponents hsteps]; rfl

/-! ## Components of a normal text -/

/-- Only a `.` before the first slash is a component. -/
theorem here_mem_components_iff (p : Path) :
    .here ∈ p.components ↔ p.segments.head? = some ['.'] := by
  obtain ⟨first, rest, hsplit⟩ := List.exists_cons_of_ne_nil (Text.splitOn_ne_nil '/' p.text.toList)
  have hrest : Component.here ∉ (rest.filter (!isSilent ·)).map component := by
    intro h
    obtain ⟨segment, -, hsegment⟩ := List.mem_map.mp h
    unfold component at hsegment
    split at hsegment <;> cases hsegment
  simp only [components, segments, hsplit, List.mem_append, or_iff_left hrest, List.head?_cons,
    Option.some.injEq]
  unfold leading
  split
  · next hempty => cases rest <;> simp [hempty]
  · split
    · next hdot => simp [hdot]
    · next hdot =>
      have hcomponent : component first ≠ .here := by
        unfold component
        split <;> simp
      simp [hdot, hcomponent.symm]

/-- Of a normal text, the first piece is no `.`. -/
theorem head?_segments_normalText (p : Path) :
    (⟨p.normalText⟩ : Path).segments.head? ≠ some ['.'] := by
  rw [segments, toList_normalText]
  cases p.isAbsolute with
  | true => simp [splitOn]
  | false =>
    cases hpieces : p.pieces with
    | nil => simp [joinWith, splitOn]
    | cons piece rest =>
      have hslash : ∀ other ∈ piece :: rest, '/' ∉ other := by
        intro other hother
        exact (piece_of_mem (hpieces ▸ hother)).2.2
      have hdot := (piece_of_mem (hpieces ▸ List.mem_cons_self : piece ∈ p.pieces)).2.1
      show (splitOn '/' (joinWith '/' (piece :: rest))).head? ≠ _
      rw [Text.splitOn_joinWith (by simp) hslash]
      simpa using hdot

/-- A normal text has the components of the path, without a leading `.`. -/
theorem components_normalText (p : Path) :
    (⟨p.normalText⟩ : Path).components = p.components.filter (· ≠ .here) := by
  have hnone : Component.here ∉ (⟨p.normalText⟩ : Path).components := by
    rw [here_mem_components_iff]
    exact head?_segments_normalText p
  have hall : (⟨p.normalText⟩ : Path).course = (⟨p.normalText⟩ : Path).components := by
    rw [course, List.filter_eq_self]
    intro c hc
    exact decide_eq_true fun hhere => hnone (hhere ▸ hc)
  rw [← hall, course_normalText, course]

theorem normalText_eq_iff {p q : Path} : p.normalText = q.normalText ↔
    p.components.filter (· ≠ .here) = q.components.filter (· ≠ .here) := by
  constructor
  · intro h
    rw [← components_normalText, h, components_normalText]
  · intro h
    rw [normalText, ← textOfComponents_filter, h, textOfComponents_filter, normalText]

/-- **Display paths are canonical keys.** For every path:
* its normal text is its own normal text;
* another path has the same one exactly if it has the same components, `.` left out;
* it is made of pieces that are neither empty nor `.`, with single slashes between them: these are
  the pieces between the slashes of the path, in their order and with every `..`;
* it starts with a slash exactly if the path is absolute. -/
theorem normalText_canonical (p : Path) :
    (⟨p.normalText⟩ : Path).normalText = p.normalText ∧
    (∀ q : Path, p.normalText = q.normalText ↔
      p.components.filter (· ≠ .here) = q.components.filter (· ≠ .here)) ∧
    (p.normalText.toList = (if p.isAbsolute then ['/'] else []) ++ joinWith '/' p.pieces ∧
      ∀ piece ∈ p.pieces, piece ≠ [] ∧ piece ≠ ['.'] ∧ '/' ∉ piece) ∧
    (p.normalText.toList.head? = some '/' ↔ p.isAbsolute = true) ∧
    (⟨p.normalText⟩ : Path).components = p.components.filter (· ≠ .here) := by
  have hagain : (⟨p.normalText⟩ : Path).normalText = p.normalText := by
    rw [normalText_eq_iff, components_normalText, List.filter_filter]
    simp
  refine ⟨hagain, fun q => normalText_eq_iff, ⟨toList_normalText p, fun _ => piece_of_mem⟩, ?_,
    components_normalText p⟩
  rw [← isAbsolute_normalText p, isAbsolute, beq_iff_eq]

end ModuleBundler.Path
