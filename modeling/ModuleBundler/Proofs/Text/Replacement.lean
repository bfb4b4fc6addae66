/-
# ModuleBundler.Proofs.Text.Replacement -- replacing a mark all through a text

A replacement goes through a text once, from left to right, and passes over what it has put in.
`replaceAll_nil`, `replaceAll_append_self` and `replaceAll_cons` are its steps, and
`mark_induction` follows them. `scan_induction` is the same for several needles.

A mark is a needle whose first character does not come again in it. No part of a mark can be
the start of another one, so pieces of text between marks are replaced each for itself. Main
statement: `replaceAll_intercalate_eq_iff`, when a replacement changes nothing but the marks
that join the pieces of a text.
-/

import Mathlib.Data.List.Forall2
import ModuleBundler.Proofs.Text.Occurrence

namespace ModuleBundler.Text

variable {α : Type} [DecidableEq α] {needle replacement rest text : List α} {m : α} {ms : List α}

/-! ## Steps -/

@[simp] theorem replaceAll_nil : replaceAll needle replacement [] = [] := rfl

theorem replaceFrom_length_append (passed : List α) :
    replaceFrom needle replacement passed.length (passed ++ rest) =
      replaceFrom needle replacement 0 rest := by
  induction passed with
  | nil => rfl
  | cons c passed ih => exact ih

/-- Where the needle stands, the replacement is put in and the needle is passed over. -/
theorem replaceAll_append_self :
    replaceAll (m :: ms) replacement (m :: ms ++ rest) =
      replacement ++ replaceAll (m :: ms) replacement rest := by
  have hhere : (m :: ms).isPrefixOf (m :: (ms ++ rest)) = true :=
    List.isPrefixOf_iff_prefix.mpr (List.prefix_append _ _)
  rw [replaceAll, List.cons_append, replaceFrom, if_pos hhere]
  exact congrArg (replacement ++ ·) (replaceFrom_length_append ms)

/-- Everywhere else a character stays as it is. -/
theorem replaceAll_cons {c : α} (h : ¬ needle <+: c :: rest) :
    replaceAll needle replacement (c :: rest) = c :: replaceAll needle replacement rest := by
  have hnot : ¬ needle.isPrefixOf (c :: rest) = true :=
    fun hhere => h (List.isPrefixOf_iff_prefix.mp hhere)
  rw [replaceAll, replaceFrom, if_neg hnot]
  rfl

omit [DecidableEq α] in
/-- A text is gone through from left to right: where a needle stands it is passed over, and
everywhere else one character is. -/
theorem scan_induction {needles : List (List α)} (hne : ∀ needle ∈ needles, needle ≠ [])
    {motive : List α → Prop} (nil : motive [])
    (found : ∀ needle ∈ needles, ∀ rest, motive rest → motive (needle ++ rest))
    (kept : ∀ c rest, (∀ needle ∈ needles, ¬ needle <+: c :: rest) → motive rest →
      motive (c :: rest))
    (text : List α) : motive text := by
  induction h : text.length using Nat.strong_induction_on generalizing text with
  | _ n ih =>
    subst h
    by_cases hhere : ∃ needle ∈ needles, needle <+: text
    · obtain ⟨needle, hneedle, rest, rfl⟩ := hhere
      have hpos : 0 < needle.length := List.length_pos_iff.mpr (hne needle hneedle)
      refine found needle hneedle rest (ih rest.length ?_ rest rfl)
      rw [List.length_append]
      exact Nat.lt_add_of_pos_left hpos
    · cases text with
      | nil => exact nil
      | cons c rest =>
        refine kept c rest ?_ (ih rest.length (Nat.lt_succ_self _) rest rfl)
        exact fun needle hneedle hstands => hhere ⟨needle, hneedle, hstands⟩

omit [DecidableEq α] in
/-- A text is gone through as a replacement goes through it. -/
theorem mark_induction {motive : List α → Prop} (m : α) (ms : List α) (nil : motive [])
    (found : ∀ rest, motive rest → motive (m :: ms ++ rest))
    (kept : ∀ c rest, ¬ m :: ms <+: c :: rest → motive rest → motive (c :: rest))
    (text : List α) : motive text := by
  refine scan_induction (List.forall_mem_singleton.mpr (List.cons_ne_nil m ms)) nil ?_ ?_ text
  · exact List.forall_mem_singleton.mpr found
  · intro c rest hnot
    exact kept c rest (hnot _ (List.mem_singleton_self _))

/-! ## Texts that are left alone -/

theorem length_replaceAll_le (h : replacement.length ≤ (m :: ms).length) (text : List α) :
    (replaceAll (m :: ms) replacement text).length ≤ text.length := by
  induction text using mark_induction m ms with
  | nil => exact le_rfl
  | found rest ih =>
    rw [replaceAll_append_self, List.length_append, List.length_append]
    omega
  | kept c rest hnot ih =>
    rw [replaceAll_cons hnot, List.length_cons, List.length_cons]
    omega

theorem le_length_replaceAll (h : (m :: ms).length ≤ replacement.length) (text : List α) :
    text.length ≤ (replaceAll (m :: ms) replacement text).length := by
  induction text using mark_induction m ms with
  | nil => exact le_rfl
  | found rest ih =>
    rw [replaceAll_append_self, List.length_append, List.length_append]
    omega
  | kept c rest hnot ih =>
    rw [replaceAll_cons hnot, List.length_cons, List.length_cons]
    omega

/-- A text is left as it is exactly if the needle does not stand in it, or is replaced by
itself. -/
theorem replaceAll_eq_self_iff :
    replaceAll (m :: ms) replacement text = text ↔
      replacement = m :: ms ∨ ¬ m :: ms <:+: text := by
  induction text using mark_induction m ms with
  | nil => simp
  | found rest ih =>
    have hinfix : m :: ms <:+: m :: ms ++ rest := List.infix_append_left
    rw [replaceAll_append_self, or_iff_left (not_not_intro hinfix)]
    constructor
    · intro heq
      refine (List.append_inj heq ?_).1
      -- What is longer for one occurrence is not made up for by the others.
      have hlen := congrArg List.length heq
      rw [List.length_append, List.length_append] at hlen
      rcases Nat.le_total replacement.length (m :: ms).length with hle | hle
      · have := length_replaceAll_le hle rest
        omega
      · have := le_length_replaceAll hle rest
        omega
    · intro heq
      rw [ih.mpr (.inl heq), heq]
  | kept c rest hnot ih =>
    rw [replaceAll_cons hnot, List.cons_inj_right, ih, List.infix_cons_iff, or_iff_right hnot]

/-- A text that does not hold the first character of the needle is passed over. -/
theorem replaceAll_append_of_notMem {front : List α} (h : m ∉ front) :
    replaceAll (m :: ms) replacement (front ++ rest) =
      front ++ replaceAll (m :: ms) replacement rest := by
  induction front with
  | nil => rfl
  | cons c front ih =>
    rw [List.mem_cons, not_or] at h
    have hnot : ¬ m :: ms <+: c :: (front ++ rest) :=
      fun hhere => h.1 (List.cons_prefix_cons.mp hhere).1
    rw [List.cons_append, replaceAll_cons hnot, ih h.2, List.cons_append]

/-! ## Pieces between marks -/

omit [DecidableEq α] in
/-- A mark that starts in a piece of text does not end in the mark behind it. -/
theorem isPrefix_of_isPrefix_append (hm : m ∉ ms) {front : List α} (hne : front ≠ [])
    (h : m :: ms <+: front ++ (m :: ms ++ rest)) : m :: ms <+: front := by
  rcases List.prefix_or_prefix_of_prefix h (List.prefix_append front _) with hinside | hlonger
  · exact hinside
  · obtain ⟨more, hmore⟩ := hlonger
    cases more with
    | nil =>
      rw [List.append_nil] at hmore
      rw [hmore]
    | cons d more =>
      -- What stands over begins with the first character of the mark behind.
      have hbehind : d :: more <+: m :: ms ++ rest := by
        rw [← List.prefix_append_right_inj front, hmore]
        exact h
      obtain rfl : d = m := (List.cons_prefix_cons.mp hbehind).1
      obtain ⟨c, front, rfl⟩ := List.exists_cons_of_ne_nil hne
      have htail : front ++ d :: more = ms := (List.cons.inj hmore).2
      exact absurd (by rw [← htail]; simp) hm

/-- What stands before a mark and what stands behind it are replaced each for itself. -/
theorem replaceAll_append_mark (hm : m ∉ ms) (front rest : List α) :
    replaceAll (m :: ms) replacement (front ++ (m :: ms ++ rest)) =
      replaceAll (m :: ms) replacement front ++
        (replacement ++ replaceAll (m :: ms) replacement rest) := by
  induction front using mark_induction m ms with
  | nil => exact replaceAll_append_self
  | found front ih =>
    rw [List.append_assoc, replaceAll_append_self, replaceAll_append_self, ih, List.append_assoc]
  | kept c front hnot ih =>
    have hnot' : ¬ m :: ms <+: c :: (front ++ (m :: ms ++ rest)) := by
      intro hhere
      exact hnot (isPrefix_of_isPrefix_append hm (List.cons_ne_nil _ _) hhere)
    rw [List.cons_append, replaceAll_cons hnot', replaceAll_cons hnot, ih, List.cons_append]

/-- The pieces between marks are replaced each for itself. -/
theorem replaceAll_intercalate (hm : m ∉ ms) (pieces : List (List α)) :
    replaceAll (m :: ms) replacement ((m :: ms).intercalate pieces) =
      replacement.intercalate (pieces.map (replaceAll (m :: ms) replacement)) := by
  induction pieces with
  | nil => rfl
  | cons piece pieces ih =>
    cases pieces with
    | nil => rw [List.map_singleton, List.intercalate_singleton, List.intercalate_singleton]
    | cons next pieces =>
      rw [List.map_cons, List.map_cons, List.intercalate_cons_cons, List.intercalate_cons_cons,
        List.append_assoc, replaceAll_append_mark hm, ih, List.append_assoc, List.map_cons]

omit [DecidableEq α] in
theorem length_intercalate_le (mark : List α) {short long : List (List α)}
    (h : List.Forall₂ (fun a b => a.length ≤ b.length) short long) :
    (mark.intercalate short).length ≤ (mark.intercalate long).length := by
  induction h with
  | nil => exact le_rfl
  | cons hle hrest ih =>
    cases hrest with
    | nil =>
      rw [List.intercalate_singleton, List.intercalate_singleton]
      exact hle
    | cons hle' hrest =>
      rw [List.intercalate_cons_cons, List.intercalate_cons_cons, List.length_append,
        List.length_append, List.length_append, List.length_append]
      omega

omit [DecidableEq α] in
/-- Pieces of which none is longer make up the same text only if they are the same. -/
theorem eq_of_intercalate_eq {mark : List α} {short long : List (List α)}
    (h : List.Forall₂ (fun a b => a.length ≤ b.length) short long)
    (heq : mark.intercalate short = mark.intercalate long) : short = long := by
  induction h with
  | nil => rfl
  | cons hle hrest ih =>
    cases hrest with
    | nil =>
      rw [List.intercalate_singleton, List.intercalate_singleton] at heq
      rw [heq]
    | cons hle' hrest =>
      have hlonger := length_intercalate_le mark (.cons hle' hrest)
      rw [List.intercalate_cons_cons, List.intercalate_cons_cons, List.append_assoc,
        List.append_assoc] at heq
      have hlen := congrArg List.length heq
      simp only [List.length_append] at hlen
      obtain ⟨hpiece, hbehind⟩ := List.append_inj heq (by omega)
      rw [hpiece, ih (List.append_cancel_left hbehind)]

/-- **Marks between pieces.** Replacing the marks that join pieces of text changes nothing else
exactly if no piece holds a mark itself, or marks are replaced by themselves. -/
theorem replaceAll_intercalate_eq_iff (hm : m ∉ ms) (pieces : List (List α)) :
    replaceAll (m :: ms) replacement ((m :: ms).intercalate pieces) =
        replacement.intercalate pieces ↔
      replacement = m :: ms ∨ ∀ piece ∈ pieces, ¬ m :: ms <:+: piece := by
  rw [replaceAll_intercalate hm]
  constructor
  · intro heq
    have hsame : pieces.map (replaceAll (m :: ms) replacement) = pieces := by
      rcases Nat.le_total replacement.length (m :: ms).length with hle | hle
      · refine eq_of_intercalate_eq ?_ heq
        rw [List.forall₂_map_left_iff, List.forall₂_same]
        exact fun piece _ => length_replaceAll_le hle piece
      · refine (eq_of_intercalate_eq ?_ heq.symm).symm
        rw [List.forall₂_map_right_iff, List.forall₂_same]
        exact fun piece _ => le_length_replaceAll hle piece
    by_cases hself : replacement = m :: ms
    · exact .inl hself
    · refine .inr fun piece hpiece => ?_
      have hkept := List.map_inj_left.mp (hsame.trans (List.map_id pieces).symm) piece hpiece
      exact (replaceAll_eq_self_iff.mp hkept).resolve_left hself
  · intro h
    have hkept : ∀ piece ∈ pieces, replaceAll (m :: ms) replacement piece = id piece := by
      intro piece hpiece
      exact replaceAll_eq_self_iff.mpr (h.imp_right fun hnone => hnone piece hpiece)
    rw [List.map_congr_left hkept, List.map_id]

end ModuleBundler.Text
