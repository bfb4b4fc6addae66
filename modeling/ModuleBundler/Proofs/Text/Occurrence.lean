/-
# ModuleBundler.Proofs.Text.Occurrence -- where a needle first stands in a text

`FirstBehind needle before text` says, without the search, that `needle` stands in
`text` right behind `before` and at no earlier place. The search finds exactly that
place (`splitFirst?_eq_some_iff`), and it fails exactly when there is none
(`splitFirst?_eq_none_iff`).

A first occurrence is decided by the text up to its own end: what stands behind it
may be replaced by anything (`FirstBehind.of_isPrefix`). This holds for every
needle, also for one that overlaps itself.

From the right, a text is cut at the mark behind which no other stands
(`beforeLast?_eq_some_iff`).
-/

import Mathlib.Data.List.Infix
import ModuleBundler.Text.Search

namespace ModuleBundler.Text

variable {α : Type}

/-! ## First occurrences, without a search -/

/-- `needle` stands in `text` right behind `before`, and at no earlier place. -/
def FirstBehind (needle before text : List α) : Prop :=
  before ++ needle <+: text ∧ ∀ front, front ++ needle <+: text → before.length ≤ front.length

/-- Two front parts of one text that are equally long are the same. -/
theorem eq_of_isPrefix_of_length {a b text : List α} (ha : a <+: text) (hb : b <+: text)
    (hlen : a.length = b.length) : a = b :=
  (List.prefix_of_prefix_length_le ha hb hlen.le).eq_of_length hlen

theorem FirstBehind.unique {needle a b text : List α} (ha : FirstBehind needle a text)
    (hb : FirstBehind needle b text) : a = b := by
  have hlen : a.length = b.length := le_antisymm (ha.2 b hb.1) (hb.2 a ha.1)
  exact eq_of_isPrefix_of_length ((List.prefix_append a needle).trans ha.1)
    ((List.prefix_append b needle).trans hb.1) hlen

/-- A first occurrence stays the first whatever stands behind it. -/
theorem FirstBehind.of_isPrefix {needle before text text' : List α}
    (h : FirstBehind needle before text) (h' : before ++ needle <+: text') :
    FirstBehind needle before text' := by
  refine ⟨h', ?_⟩
  intro front hfront
  by_contra hlt
  -- An earlier occurrence would end inside `before ++ needle`, which both texts share.
  have hlen : (front ++ needle).length ≤ (before ++ needle).length := by
    simp only [List.length_append]
    omega
  have hshared : front ++ needle <+: before ++ needle :=
    List.prefix_of_prefix_length_le hfront h' hlen
  exact hlt (h.2 front (hshared.trans h.1))

/-- One character first stands behind a part of the text that does not hold it. -/
theorem firstBehind_singleton_iff {c : α} {before text : List α} :
    FirstBehind [c] before text ↔ before ++ [c] <+: text ∧ c ∉ before := by
  constructor
  · rintro ⟨hhere, hleast⟩
    refine ⟨hhere, ?_⟩
    intro hmem
    obtain ⟨front, behind, rfl⟩ := List.append_of_mem hmem
    have hearlier : front ++ [c] <+: text := by
      refine List.IsPrefix.trans ?_ hhere
      exact ⟨behind ++ [c], by simp⟩
    have := hleast front hearlier
    simp only [List.length_append, List.length_cons] at this
    omega
  · rintro ⟨hhere, hnot⟩
    refine ⟨hhere, ?_⟩
    intro front hfront
    by_contra hlt
    have hinside : front ++ [c] <+: before := by
      refine List.prefix_of_prefix_length_le hfront ((List.prefix_append _ _).trans hhere) ?_
      simp only [List.length_append, List.length_singleton]
      omega
    exact hnot (hinside.subset (by simp))

/-! ## The search -/

section Search

variable [DecidableEq α]

theorem splitFirst?_least {needle : List α} :
    ∀ {text before after : List α}, splitFirst? needle text = some (before, after) →
      ∀ front, front ++ needle <+: text → before.length ≤ front.length
  | [], before, after, h => by
    intro front _
    have htext := splitFirst?_eq_some h
    have hnil : before = [] := by
      simp only [List.nil_eq, List.append_eq_nil_iff] at htext
      exact htext.1.1
    simp [hnil]
  | c :: rest, before, after, h => by
    intro front hfront
    simp only [splitFirst?] at h
    split at h
    · simp only [Option.some.injEq, Prod.mk.injEq] at h
      simp [← h.1]
    · next hnot =>
      obtain ⟨⟨b, a⟩, hs, hp⟩ := Option.map_eq_some_iff.mp h
      simp only [Prod.mk.injEq] at hp
      obtain ⟨rfl, rfl⟩ := hp
      cases front with
      | nil => exact absurd (List.isPrefixOf_iff_prefix.mpr hfront) hnot
      | cons d front =>
        have htail : front ++ needle <+: rest := (List.cons_prefix_cons.mp hfront).2
        have := splitFirst?_least hs front htail
        simpa using this

/-- The search fails exactly when the needle does not stand in the text. -/
theorem splitFirst?_eq_none_iff {needle text : List α} :
    splitFirst? needle text = none ↔ ¬ needle <:+: text := by
  induction text with
  | nil =>
    rw [List.infix_nil, splitFirst?]
    cases needle <;> simp
  | cons c rest ih =>
    rw [splitFirst?, List.infix_cons_iff, not_or, ← ih, ← List.isPrefixOf_iff_prefix]
    split
    · next h => simp [h]
    · next h => simp [h]

/-- The search finds the first occurrence, and the text behind it. -/
theorem splitFirst?_eq_some_iff {needle text before after : List α} :
    splitFirst? needle text = some (before, after) ↔
      text = before ++ needle ++ after ∧ FirstBehind needle before text := by
  constructor
  · intro h
    have htext := splitFirst?_eq_some h
    exact ⟨htext, ⟨after, htext.symm⟩, splitFirst?_least h⟩
  · rintro ⟨htext, hfirst⟩
    have hinfix : needle <:+: text := ⟨before, after, htext.symm⟩
    cases hs : splitFirst? needle text with
    | none => exact absurd hinfix (splitFirst?_eq_none_iff.mp hs)
    | some pieces =>
      obtain ⟨b, a⟩ := pieces
      have hb := splitFirst?_eq_some hs
      have hbefore : b = before :=
        FirstBehind.unique ⟨⟨a, hb.symm⟩, splitFirst?_least hs⟩ hfirst
      subst hbefore
      have hafter : a = after := List.append_cancel_left (hb.symm.trans htext)
      rw [hafter]

/-! ## The last mark -/

theorem beforeLast?_eq_none_iff {mark : α} {text : List α} :
    beforeLast? mark text = none ↔ mark ∉ text := by
  induction text with
  | nil => simp [beforeLast?]
  | cons c rest ih =>
    rw [beforeLast?, List.mem_cons, not_or, ← ih, eq_comm (a := mark)]
    cases beforeLast? mark rest with
    | some before => simp
    | none => by_cases hc : c = mark <;> simp [hc]

/-- The text is cut at the mark behind which no other stands. -/
theorem beforeLast?_eq_some_iff {mark : α} {text before : List α} :
    beforeLast? mark text = some before ↔
      ∃ behind, text = before ++ mark :: behind ∧ mark ∉ behind := by
  induction text generalizing before with
  | nil => simp [beforeLast?]
  | cons c rest ih =>
    rw [beforeLast?]
    cases hlater : beforeLast? mark rest with
    | some later =>
      obtain ⟨behind, rfl, hbehind⟩ := ih.mp hlater
      rw [Option.some.injEq]
      constructor
      · rintro rfl
        exact ⟨behind, rfl, hbehind⟩
      · rintro ⟨other, htext, hother⟩
        -- The mark of `rest` is none of `other`, so `before` starts with `c`.
        cases before with
        | nil =>
          obtain ⟨-, rfl⟩ := List.cons.inj htext
          exact absurd (by simp) hother
        | cons d before =>
          obtain ⟨rfl, hrest⟩ := List.cons.inj htext
          have hsame : some later = some before := hlater ▸ ih.mpr ⟨other, hrest, hother⟩
          rw [Option.some.inj hsame]
    | none =>
      have hnot : mark ∉ rest := beforeLast?_eq_none_iff.mp hlater
      dsimp only
      constructor
      · intro h
        obtain ⟨rfl, hnil⟩ := Option.ite_none_right_eq_some.mp h
        obtain rfl : [] = before := Option.some.inj hnil
        exact ⟨rest, rfl, hnot⟩
      · rintro ⟨behind, htext, -⟩
        cases before with
        | nil =>
          obtain ⟨rfl, -⟩ := List.cons.inj htext
          rw [if_pos rfl]
        | cons d before =>
          obtain ⟨-, rfl⟩ := List.cons.inj htext
          exact absurd (by simp) hnot

end Search

end ModuleBundler.Text
