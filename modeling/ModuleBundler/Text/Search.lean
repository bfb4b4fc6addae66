/-
# ModuleBundler.Text.Search -- first and last occurrences in a text

A text is handled here as the list of its characters, so that a search returns
the pieces themselves: what stands before the occurrence and what stands after
it. `splitFirst?_eq_some` says that nothing is lost between them, and
`joinWith_splitOn` that the pieces between all marks make the whole text.

The empty needle occurs at the very start of every text, the empty one included.
-/

namespace ModuleBundler.Text

variable {α : Type} [DecidableEq α]

/-! ## First occurrence -/

/-- Splits a text around the first place where `needle` occurs: what stands
before it, and what stands after it. -/
def splitFirst? (needle : List α) : List α → Option (List α × List α)
  | [] => if needle.isPrefixOf [] then some ([], []) else none
  | c :: rest =>
    if needle.isPrefixOf (c :: rest) then some ([], (c :: rest).drop needle.length)
    else (splitFirst? needle rest).map fun pieces => (c :: pieces.1, pieces.2)

theorem eq_append_drop_of_isPrefixOf {needle text : List α} (h : needle.isPrefixOf text = true) :
    text = needle ++ text.drop needle.length :=
  (List.prefix_iff_eq_append.mp (List.isPrefixOf_iff_prefix.mp h)).symm

/-- The two pieces and the needle between them are the whole text. -/
theorem splitFirst?_eq_some {needle : List α} :
    ∀ {text before after : List α}, splitFirst? needle text = some (before, after) →
      text = before ++ needle ++ after
  | [], before, after, h => by
    simp only [splitFirst?] at h
    split at h
    · next hp =>
      simp only [Option.some.injEq, Prod.mk.injEq] at h
      obtain ⟨rfl, rfl⟩ := h
      simpa using eq_append_drop_of_isPrefixOf hp
    · exact absurd h (by simp)
  | c :: rest, before, after, h => by
    simp only [splitFirst?] at h
    split at h
    · next hp =>
      simp only [Option.some.injEq, Prod.mk.injEq] at h
      obtain ⟨rfl, rfl⟩ := h
      simpa using eq_append_drop_of_isPrefixOf hp
    · obtain ⟨⟨b, a⟩, hs, hp⟩ := Option.map_eq_some_iff.mp h
      simp only [Prod.mk.injEq] at hp
      obtain ⟨rfl, rfl⟩ := hp
      simp [splitFirst?_eq_some hs]

/-! ## Last occurrence of one character -/

/-- The part of a text before the last `mark`, if there is one. -/
def beforeLast? (mark : α) : List α → Option (List α)
  | [] => none
  | c :: rest =>
    match beforeLast? mark rest with
    | some before => some (c :: before)
    | none => if c = mark then some [] else none

/-! ## Pieces between marks -/

/-- The pieces of a text between the places where `mark` stands; a text without
a mark is its own single piece. -/
def splitOn (mark : α) : List α → List (List α)
  | [] => [[]]
  | c :: rest =>
    if c = mark then [] :: splitOn mark rest
    else match splitOn mark rest with
      | [] => [[c]]
      | piece :: pieces => (c :: piece) :: pieces

theorem splitOn_ne_nil (mark : α) (text : List α) : splitOn mark text ≠ [] := by
  cases text with
  | nil => simp [splitOn]
  | cons c rest =>
    simp only [splitOn]
    split
    · simp
    · split <;> simp

/-- The pieces put together again, with `mark` between neighbours. -/
def joinWith (mark : α) : List (List α) → List α
  | [] => []
  | [piece] => piece
  | piece :: pieces => piece ++ mark :: joinWith mark pieces

omit [DecidableEq α] in
theorem joinWith_cons (mark : α) (piece : List α) {pieces : List (List α)} (h : pieces ≠ []) :
    joinWith mark (piece :: pieces) = piece ++ mark :: joinWith mark pieces := by
  cases pieces with
  | nil => exact absurd rfl h
  | cons p ps => rfl

omit [DecidableEq α] in
theorem joinWith_append (mark : α) {front back : List (List α)} (hfront : front ≠ [])
    (hback : back ≠ []) :
    joinWith mark (front ++ back) = joinWith mark front ++ mark :: joinWith mark back := by
  induction front with
  | nil => exact absurd rfl hfront
  | cons piece rest ih =>
    cases rest with
    | nil => exact joinWith_cons mark piece hback
    | cons second more =>
      rw [List.cons_append, joinWith_cons mark piece (by simp), ih (by simp),
        joinWith_cons mark piece (by simp), List.append_assoc]
      rfl

omit [DecidableEq α] in
/-- What stands in joined pieces is the mark, or stands in one of them. -/
theorem eq_or_mem_of_mem_joinWith {mark c : α} {pieces : List (List α)}
    (h : c ∈ joinWith mark pieces) : c = mark ∨ ∃ piece ∈ pieces, c ∈ piece := by
  induction pieces with
  | nil => cases h
  | cons piece rest ih =>
    by_cases hrest : rest = []
    · rw [hrest] at h
      exact .inr ⟨piece, List.mem_cons_self, h⟩
    · rw [joinWith_cons mark piece hrest, List.mem_append, List.mem_cons] at h
      rcases h with hpiece | hmark | hlater
      · exact .inr ⟨piece, List.mem_cons_self, hpiece⟩
      · exact .inl hmark
      · rcases ih hlater with hmark | ⟨other, hother, hc⟩
        · exact .inl hmark
        · exact .inr ⟨other, List.mem_cons_of_mem _ hother, hc⟩

/-- The pieces between marks, put together again, are the whole text. -/
theorem joinWith_splitOn (mark : α) (text : List α) : joinWith mark (splitOn mark text) = text := by
  induction text with
  | nil => rfl
  | cons c rest ih =>
    by_cases h : c = mark
    · simp only [splitOn, if_pos h]
      rw [joinWith_cons mark [] (splitOn_ne_nil mark rest), ih, h]
      rfl
    · simp only [splitOn, if_neg h]
      cases hs : splitOn mark rest with
      | nil => exact absurd hs (splitOn_ne_nil mark rest)
      | cons piece pieces =>
        rw [hs] at ih
        cases pieces with
        | nil => simpa [joinWith] using ih
        | cons p ps => simpa [joinWith] using ih

/-- A mark keeps the pieces before it and those behind it apart. -/
theorem splitOn_append_mark (mark : α) (front back : List α) :
    splitOn mark (front ++ mark :: back) = splitOn mark front ++ splitOn mark back := by
  induction front with
  | nil => simp [splitOn]
  | cons c rest ih =>
    rw [List.cons_append, splitOn, splitOn, ih]
    by_cases h : c = mark
    · rw [if_pos h, if_pos h, List.cons_append]
    · rw [if_neg h, if_neg h]
      cases hs : splitOn mark rest with
      | nil => exact absurd hs (splitOn_ne_nil mark rest)
      | cons piece pieces => rfl

theorem splitOn_of_not_mem {mark : α} {text : List α} (h : mark ∉ text) :
    splitOn mark text = [text] := by
  induction text with
  | nil => rfl
  | cons c rest ih =>
    rw [List.mem_cons, not_or] at h
    rw [splitOn, if_neg (Ne.symm h.1), ih h.2]

/-- No piece holds the mark. -/
theorem not_mem_of_mem_splitOn {mark : α} {text piece : List α} (h : piece ∈ splitOn mark text) :
    mark ∉ piece := by
  induction text generalizing piece with
  | nil => simp_all [splitOn]
  | cons c rest ih =>
    rw [splitOn] at h
    split at h
    · rcases List.mem_cons.mp h with rfl | hrest
      · simp
      · exact ih hrest
    · next hc =>
      cases hs : splitOn mark rest with
      | nil => exact absurd hs (splitOn_ne_nil mark rest)
      | cons first pieces =>
        rw [hs] at h ih
        rcases List.mem_cons.mp h with rfl | hrest
        · rw [List.mem_cons, not_or]
          exact ⟨Ne.symm hc, ih List.mem_cons_self⟩
        · exact ih (List.mem_cons_of_mem _ hrest)

/-- Pieces without a mark are found again between the marks that join them. -/
theorem splitOn_joinWith {mark : α} {pieces : List (List α)} (hne : pieces ≠ [])
    (h : ∀ piece ∈ pieces, mark ∉ piece) : splitOn mark (joinWith mark pieces) = pieces := by
  induction pieces with
  | nil => exact absurd rfl hne
  | cons piece rest ih =>
    have hpiece : mark ∉ piece := h piece (by simp)
    cases rest with
    | nil => exact splitOn_of_not_mem hpiece
    | cons second more =>
      rw [joinWith_cons mark piece (by simp), splitOn_append_mark, splitOn_of_not_mem hpiece,
        ih (by simp) fun p hp => h p (List.mem_cons_of_mem _ hp)]
      rfl

/-! ## Replacement -/

/-- Replaces every occurrence of `needle`, found from left to right without
overlap. The first argument counts characters of the occurrence last found that
are still to be passed over. -/
def replaceFrom (needle replacement : List α) : Nat → List α → List α
  | _, [] => []
  | passing + 1, _ :: rest => replaceFrom needle replacement passing rest
  | 0, c :: rest =>
    if needle.isPrefixOf (c :: rest) then
      replacement ++ replaceFrom needle replacement (needle.length - 1) rest
    else c :: replaceFrom needle replacement 0 rest

/-- Replaces every occurrence of a non-empty `needle` by `replacement`. -/
def replaceAll (needle replacement text : List α) : List α :=
  replaceFrom needle replacement 0 text

/-- Drops `head` from the front of a text as often as it stands there. The
first argument counts characters of the head last found that are still to be
dropped. -/
def dropRepeated (head : List α) : Nat → List α → List α
  | _, [] => []
  | dropping + 1, _ :: rest => dropRepeated head dropping rest
  | 0, c :: rest =>
    if head.isPrefixOf (c :: rest) then dropRepeated head (head.length - 1) rest
    else c :: rest

end ModuleBundler.Text
