/-
# ModuleBundler.Text.Ranges -- classes of characters by ranges of code points

A class with many characters is given by the ranges of their code points, each with
both its ends. Ranges that ascend with gaps between them (`ascending`) write a class
in only one way.
-/

namespace ModuleBundler.Text

/-- Code points by ranges that contain both their ends. -/
abbrev Ranges := List (Nat × Nat)

namespace Ranges

/-- Whether ranges of numbers from `low` on ascend, with gaps between them. -/
def ascending (low : Nat) : Ranges → Bool
  | [] => true
  | (first, last) :: rest => low ≤ first && first ≤ last && ascending (last + 2) rest

/-- Whether a character is in one of the ranges. -/
def has (ranges : Ranges) (c : Char) : Bool :=
  ranges.any fun range => range.1 ≤ c.toNat && c.toNat ≤ range.2

/-- A character is in the ranges if its code point lies between the ends of one. -/
theorem has_of_mem {ranges : Ranges} {c : Char} (first last : Nat) (h : (first, last) ∈ ranges)
    (hf : first ≤ c.toNat) (hl : c.toNat ≤ last) : has ranges c = true :=
  List.any_eq_true.mpr ⟨(first, last), h, by simp [hf, hl]⟩

end Ranges

end ModuleBundler.Text
