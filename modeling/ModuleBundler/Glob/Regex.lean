/-
# ModuleBundler.Glob.Regex -- regular expressions over bytes

The expressions that glob patterns stand for. Their meaning is the relation
`Matches`; a matcher for them stands in `ModuleBundler.Glob.Marking`.
-/

namespace ModuleBundler.Glob

/-- A set of bytes, given by ranges, or the complement of one. -/
structure ByteSet where
  negated : Bool
  ranges : List (UInt8 × UInt8)
  deriving DecidableEq, Repr

namespace ByteSet

/-- Whether a byte is in the set. -/
def contains (s : ByteSet) (b : UInt8) : Bool :=
  (s.ranges.any fun range => range.1 ≤ b && b ≤ range.2) != s.negated

/-- The set of one byte. -/
def single (b : UInt8) : ByteSet := ⟨false, [(b, b)]⟩

/-- Every byte. -/
def full : ByteSet := ⟨true, []⟩

/-- Every byte but one. -/
def allBut (b : UInt8) : ByteSet := ⟨true, [(b, b)]⟩

end ByteSet

/-- A regular expression over bytes. -/
inductive Regex where
  /-- The empty text. -/
  | nothing
  /-- One byte of a set. -/
  | byte (set : ByteSet)
  | seq (first second : Regex)
  | alt (left right : Regex)
  | star (body : Regex)
  deriving DecidableEq, Repr

namespace Regex

/-! ## Meaning -/

/-- Which texts an expression matches. -/
inductive Matches : Regex → List UInt8 → Prop
  | nothing : Matches .nothing []
  | byte {set : ByteSet} {b : UInt8} : set.contains b = true → Matches (.byte set) [b]
  | seq {r s : Regex} {u v : List UInt8} : Matches r u → Matches s v → Matches (.seq r s) (u ++ v)
  | left {r s : Regex} {u : List UInt8} : Matches r u → Matches (.alt r s) u
  | right {r s : Regex} {u : List UInt8} : Matches s u → Matches (.alt r s) u
  | done {r : Regex} : Matches (.star r) []
  | again {r : Regex} {u v : List UInt8} :
      Matches r u → Matches (.star r) v → Matches (.star r) (u ++ v)

/-! ## The empty text -/

/-- Whether an expression matches the empty text. -/
def matchesEmpty : Regex → Bool
  | nothing => true
  | byte _ => false
  | seq r s => r.matchesEmpty && s.matchesEmpty
  | alt r s => r.matchesEmpty || s.matchesEmpty
  | star _ => true

/-! ## What an expression matches by its parts -/

theorem matches_seq_iff {r s : Regex} {w : List UInt8} :
    Matches (.seq r s) w ↔ ∃ u v, w = u ++ v ∧ Matches r u ∧ Matches s v := by
  constructor
  · intro h
    cases h with
    | seq hu hv => exact ⟨_, _, rfl, hu, hv⟩
  · rintro ⟨u, v, rfl, hu, hv⟩
    exact .seq hu hv

theorem matches_alt_iff {r s : Regex} {w : List UInt8} :
    Matches (.alt r s) w ↔ Matches r w ∨ Matches s w := by
  constructor
  · intro h
    cases h with
    | left hu => exact .inl hu
    | right hu => exact .inr hu
  · rintro (hu | hu)
    · exact .left hu
    · exact .right hu

/-- A repetition that matches a text with a first byte matches that byte in a round
that is not empty. -/
theorem matches_star_cons {r : Regex} {b : UInt8} {w : List UInt8} (h : Matches (.star r) (b :: w)) :
    ∃ u v, w = u ++ v ∧ Matches r (b :: u) ∧ Matches (.star r) v := by
  generalize hs : Regex.star r = s at h
  generalize ht : b :: w = t at h
  induction h with
  | nothing => cases hs
  | byte _ => cases hs
  | seq _ _ _ _ => cases hs
  | left _ _ => cases hs
  | right _ _ => cases hs
  | done => cases ht
  | @again r' u v hu hv _ ihv =>
    cases hs
    cases u with
    | nil => exact ihv rfl ht
    | cons c u =>
      simp only [List.cons_append, List.cons.injEq] at ht
      obtain ⟨rfl, rfl⟩ := ht
      exact ⟨u, v, rfl, hu, hv⟩

/-- The test for the empty text says what the relation says. -/
theorem matchesEmpty_iff (r : Regex) : r.matchesEmpty = true ↔ Matches r [] := by
  induction r with
  | nothing => exact ⟨fun _ => .nothing, fun _ => rfl⟩
  | byte set =>
    constructor
    · nofun
    · nofun
  | seq r s ihr ihs =>
    rw [matchesEmpty, Bool.and_eq_true, ihr, ihs, matches_seq_iff]
    constructor
    · rintro ⟨hr, hs⟩
      exact ⟨[], [], rfl, hr, hs⟩
    · rintro ⟨u, v, huv, hu, hv⟩
      obtain ⟨rfl, rfl⟩ := List.append_eq_nil_iff.mp huv.symm
      exact ⟨hu, hv⟩
  | alt r s ihr ihs => rw [matchesEmpty, Bool.or_eq_true, ihr, ihs, matches_alt_iff]
  | star r _ => exact ⟨fun _ => .done, fun _ => rfl⟩

end Regex

end ModuleBundler.Glob
