/-
# ModuleBundler.Glob.Marking -- matching by marks on an expression

A marking is an expression in which a byte set is marked when it has just matched
the last byte that was read. Reading a byte moves the marks on, so a text is matched
in one pass, and never with more marks than the expression has byte sets.

`Rest m w` says that `w` may follow what was read: it leads from one of the marks
to the end of the expression. Main statement: `accepts_iff`, a text is accepted
exactly when the expression matches it.
-/

import ModuleBundler.Glob.Regex

namespace ModuleBundler.Glob

/-- An expression with marks on some of its byte sets. -/
inductive Marking where
  | nothing
  | byte (set : ByteSet) (marked : Bool)
  | seq (first second : Marking)
  | alt (left right : Marking)
  | star (body : Marking)
  deriving Repr

namespace Marking

/-! ## Moving marks -/

/-- An expression without marks. -/
def ofRegex : Regex → Marking
  | .nothing => .nothing
  | .byte set => .byte set false
  | .seq r s => .seq (ofRegex r) (ofRegex s)
  | .alt r s => .alt (ofRegex r) (ofRegex s)
  | .star r => .star (ofRegex r)

/-- The expression under the marks. -/
def regex : Marking → Regex
  | nothing => .nothing
  | byte set _ => .byte set
  | seq m n => .seq m.regex n.regex
  | alt m n => .alt m.regex n.regex
  | star m => .star m.regex

/-- Whether the expression matches the empty text. -/
def isSkippable : Marking → Bool
  | nothing => true
  | byte _ _ => false
  | seq m n => m.isSkippable && n.isSkippable
  | alt m n => m.isSkippable || n.isSkippable
  | star _ => true

/-- Whether the text may end at one of the marks. -/
def isFinal : Marking → Bool
  | nothing => false
  | byte _ marked => marked
  | seq m n => m.isFinal && n.isSkippable || n.isFinal
  | alt m n => m.isFinal || n.isFinal
  | star m => m.isFinal

/-- The marking after one more byte; `enters` says whether the expression may begin
with that byte. -/
def read (b : UInt8) (enters : Bool) : Marking → Marking
  | nothing => .nothing
  | byte set _ => .byte set (enters && set.contains b)
  | seq m n => .seq (m.read b enters) (n.read b (enters && m.isSkippable || m.isFinal))
  | alt m n => .alt (m.read b enters) (n.read b enters)
  | star m => .star (m.read b (enters || m.isFinal))

end Marking

/-- Whether an expression matches a text. -/
def Regex.accepts (r : Regex) : List UInt8 → Bool
  | [] => r.matchesEmpty
  | b :: rest =>
    (rest.foldl (fun m b => m.read b false) ((Marking.ofRegex r).read b true)).isFinal

namespace Marking

/-! ## What may follow the marks -/

/-- Which texts may follow what was read. -/
def Rest : Marking → List UInt8 → Prop
  | nothing, _ => False
  | byte _ marked, w => marked = true ∧ w = []
  | seq m n, w => (∃ u v, w = u ++ v ∧ m.Rest u ∧ n.regex.Matches v) ∨ n.Rest w
  | alt m n, w => m.Rest w ∨ n.Rest w
  | star m, w => ∃ u v, w = u ++ v ∧ m.Rest u ∧ (Regex.star m.regex).Matches v

@[simp] theorem regex_ofRegex (r : Regex) : (ofRegex r).regex = r := by
  induction r <;> simp_all [ofRegex, regex]

@[simp] theorem regex_read (b : UInt8) (enters : Bool) (m : Marking) :
    (m.read b enters).regex = m.regex := by
  induction m generalizing enters with
  | nothing => rfl
  | byte set marked => rfl
  | seq m n ihm ihn => rw [read, regex, regex, ihm, ihn]
  | alt m n ihm ihn => rw [read, regex, regex, ihm, ihn]
  | star m ih => rw [read, regex, regex, ih]

theorem isSkippable_iff (m : Marking) : m.isSkippable = true ↔ m.regex.Matches [] := by
  rw [← Regex.matchesEmpty_iff]
  induction m <;> simp_all [isSkippable, regex, Regex.matchesEmpty]

/-- Nothing may follow when nothing is marked. -/
theorem not_rest_ofRegex (r : Regex) (w : List UInt8) : ¬ (ofRegex r).Rest w := by
  induction r generalizing w with
  | nothing => exact id
  | byte set => simp [ofRegex, Rest]
  | seq r s ihr ihs => simp [ofRegex, Rest, ihr, ihs]
  | alt r s ihr ihs => simp [ofRegex, Rest, ihr, ihs]
  | star r ih => simp [ofRegex, Rest, ih]

/-- The text may end at a mark exactly when the empty text may follow. -/
theorem isFinal_iff (m : Marking) : m.isFinal = true ↔ m.Rest [] := by
  induction m with
  | nothing => simp [isFinal, Rest]
  | byte set marked => simp [isFinal, Rest]
  | seq m n ihm ihn =>
    simp only [isFinal, Rest, Bool.or_eq_true, Bool.and_eq_true, ihm, ihn, isSkippable_iff]
    constructor
    · rintro (⟨hm, hn⟩ | hn)
      · exact .inl ⟨[], [], rfl, hm, hn⟩
      · exact .inr hn
    · rintro (⟨u, v, huv, hu, hv⟩ | hn)
      · obtain ⟨rfl, rfl⟩ := List.append_eq_nil_iff.mp huv.symm
        exact .inl ⟨hu, hv⟩
      · exact .inr hn
  | alt m n ihm ihn => simp only [isFinal, Rest, Bool.or_eq_true, ihm, ihn]
  | star m ih =>
    simp only [isFinal, Rest, ih]
    constructor
    · intro hm
      exact ⟨[], [], rfl, hm, .done⟩
    · rintro ⟨u, v, huv, hu, _⟩
      obtain ⟨rfl, rfl⟩ := List.append_eq_nil_iff.mp huv.symm
      exact hu

/-! ## Reading a byte -/

/-- What is left behind the first byte of a text in two parts. -/
theorem exists_append_cons_iff {p q : List UInt8 → Prop} (b : UInt8) (w : List UInt8) :
    (∃ u v, b :: w = u ++ v ∧ p u ∧ q v) ↔
      (p [] ∧ q (b :: w)) ∨ ∃ u v, w = u ++ v ∧ p (b :: u) ∧ q v := by
  constructor
  · rintro ⟨u, v, huv, hu, hv⟩
    cases u with
    | nil => exact .inl ⟨hu, by rw [huv]; exact hv⟩
    | cons c u =>
      simp only [List.cons_append, List.cons.injEq] at huv
      obtain ⟨rfl, rfl⟩ := huv
      exact .inr ⟨u, v, rfl, hu, hv⟩
  · rintro (⟨hp, hq⟩ | ⟨u, v, rfl, hu, hv⟩)
    · exact ⟨[], b :: w, rfl, hp, hq⟩
    · exact ⟨b :: u, v, rfl, hu, hv⟩

theorem matches_seq_cons_iff {r s : Regex} (b : UInt8) (w : List UInt8) :
    (Regex.seq r s).Matches (b :: w) ↔
      (r.Matches [] ∧ s.Matches (b :: w)) ∨ ∃ u v, w = u ++ v ∧ r.Matches (b :: u) ∧ s.Matches v := by
  rw [Regex.matches_seq_iff, exists_append_cons_iff b w]

theorem matches_star_cons_iff {r : Regex} (b : UInt8) (w : List UInt8) :
    (Regex.star r).Matches (b :: w) ↔
      ∃ u v, w = u ++ v ∧ r.Matches (b :: u) ∧ (Regex.star r).Matches v := by
  constructor
  · exact Regex.matches_star_cons
  · rintro ⟨u, v, rfl, hu, hv⟩
    exact .again hu hv

/-- What may follow one more byte: what matches behind it from the beginning, if the
expression may begin with it, and what may follow it from a mark. -/
theorem rest_read_iff (b : UInt8) (enters : Bool) (m : Marking) (w : List UInt8) :
    (m.read b enters).Rest w ↔ (enters = true ∧ m.regex.Matches (b :: w)) ∨ m.Rest (b :: w) := by
  induction m generalizing enters w with
  | nothing =>
    constructor
    · exact False.elim
    · rintro (⟨_, h⟩ | h)
      · nomatch h
      · exact h
  | byte set marked =>
    simp only [read, Rest, regex, Bool.and_eq_true]
    constructor
    · rintro ⟨⟨he, hb⟩, rfl⟩
      exact .inl ⟨he, .byte hb⟩
    · rintro (⟨he, h⟩ | ⟨_, h⟩)
      · cases h with
        | byte hb => exact ⟨⟨he, hb⟩, rfl⟩
      · nomatch h
  | seq m n ihm ihn =>
    simp only [read, Rest, regex, regex_read, ihm, ihn, Bool.or_eq_true, Bool.and_eq_true,
      isSkippable_iff, isFinal_iff, matches_seq_cons_iff, exists_append_cons_iff b w]
    constructor
    · rintro (⟨u, v, huv, ⟨he, hu⟩ | hu, hv⟩ | ⟨⟨he, hm⟩ | hm, hn⟩ | hn)
      · exact .inl ⟨he, .inr ⟨u, v, huv, hu, hv⟩⟩
      · exact .inr (.inl (.inr ⟨u, v, huv, hu, hv⟩))
      · exact .inl ⟨he, .inl ⟨hm, hn⟩⟩
      · exact .inr (.inl (.inl ⟨hm, hn⟩))
      · exact .inr (.inr hn)
    · rintro (⟨he, ⟨hm, hn⟩ | ⟨u, v, huv, hu, hv⟩⟩ | (⟨hm, hn⟩ | ⟨u, v, huv, hu, hv⟩) | hn)
      · exact .inr (.inl ⟨.inl ⟨he, hm⟩, hn⟩)
      · exact .inl ⟨u, v, huv, .inl ⟨he, hu⟩, hv⟩
      · exact .inr (.inl ⟨.inr hm, hn⟩)
      · exact .inl ⟨u, v, huv, .inr hu, hv⟩
      · exact .inr (.inr hn)
  | alt m n ihm ihn =>
    simp only [read, Rest, regex, ihm, ihn, Regex.matches_alt_iff]
    constructor
    · rintro ((⟨he, hm⟩ | hm) | (⟨he, hn⟩ | hn))
      · exact .inl ⟨he, .inl hm⟩
      · exact .inr (.inl hm)
      · exact .inl ⟨he, .inr hn⟩
      · exact .inr (.inr hn)
    · rintro (⟨he, hm | hn⟩ | hm | hn)
      · exact .inl (.inl ⟨he, hm⟩)
      · exact .inr (.inl ⟨he, hn⟩)
      · exact .inl (.inr hm)
      · exact .inr (.inr hn)
  | star m ih =>
    simp only [read, Rest, regex, regex_read, ih, Bool.or_eq_true, isFinal_iff,
      matches_star_cons_iff, exists_append_cons_iff b w]
    constructor
    · rintro ⟨u, v, huv, ⟨he | hm, hu⟩ | hu, hv⟩
      · exact .inl ⟨he, u, v, huv, hu, hv⟩
      · exact .inr (.inl ⟨hm, u, v, huv, hu, hv⟩)
      · exact .inr (.inr ⟨u, v, huv, hu, hv⟩)
    · rintro (⟨he, u, v, huv, hu, hv⟩ | ⟨hm, u, v, huv, hu, hv⟩ | ⟨u, v, huv, hu, hv⟩)
      · exact ⟨u, v, huv, .inl ⟨.inl he, hu⟩, hv⟩
      · exact ⟨u, v, huv, .inl ⟨.inr hm, hu⟩, hv⟩
      · exact ⟨u, v, huv, .inr hu, hv⟩

/-- A text leads to an end exactly when it may follow. -/
theorem isFinal_foldl_read_iff (text : List UInt8) (m : Marking) :
    (text.foldl (fun m b => m.read b false) m).isFinal = true ↔ m.Rest text := by
  induction text generalizing m with
  | nil => exact isFinal_iff m
  | cons b rest ih =>
    rw [List.foldl_cons, ih, rest_read_iff]
    simp

end Marking

/-- Exactly the texts that an expression matches are accepted. -/
theorem Regex.accepts_iff (r : Regex) (text : List UInt8) :
    r.accepts text = true ↔ Matches r text := by
  cases text with
  | nil => exact matchesEmpty_iff r
  | cons b rest =>
    rw [accepts, Marking.isFinal_foldl_read_iff, Marking.rest_read_iff, Marking.regex_ofRegex]
    simp [Marking.not_rest_ofRegex]

end ModuleBundler.Glob
