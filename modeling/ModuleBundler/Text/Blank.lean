/-
# ModuleBundler.Text.Blank -- the Unicode property `White_Space`

The twenty-five characters with the property `White_Space`. The class is wider
than `Char.isWhitespace`, which knows four of them; `isBlank_of_isWhitespace`
says that it contains those four.
-/

namespace ModuleBundler.Text

/-- The code points with the property `White_Space`. -/
def blankCodes : List Nat :=
  [0x09, 0x0A, 0x0B, 0x0C, 0x0D, 0x20, 0x85, 0xA0, 0x1680,
   0x2000, 0x2001, 0x2002, 0x2003, 0x2004, 0x2005, 0x2006, 0x2007, 0x2008, 0x2009, 0x200A,
   0x2028, 0x2029, 0x202F, 0x205F, 0x3000]

/-- Whether a character has the property `White_Space`. -/
def isBlank (c : Char) : Bool :=
  blankCodes.contains c.toNat

theorem isBlank_of_isWhitespace (c : Char) (h : c.isWhitespace = true) : isBlank c = true := by
  simp only [Char.isWhitespace, Bool.or_eq_true, decide_eq_true_eq] at h
  rcases h with ((rfl | rfl) | rfl) | rfl <;> decide

/-- A text without the white space at its front. -/
def trimStart (text : List Char) : List Char :=
  text.dropWhile isBlank

end ModuleBundler.Text
