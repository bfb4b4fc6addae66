/-
# ModuleBundler.Proofs.Report -- the columns of a listing

A listing of targets has a line for each, with its name, its mode and its destination. Names are
filled up to a number of characters that is taken from their lengths in bytes. A name has no more
characters than bytes (`length_le_utf8ByteSize`), so that each is filled up to the same width and
none sticks out (`targetLine_columns`): where the columns start does not depend on the line.

A destination may hold line breaks, as the last thing in its line. What stands before it does not.
-/

import Mathlib.Data.List.Forall2
import ModuleBundler.Report

namespace ModuleBundler.Report

variable {b : BundleSection} {t : Target} {ts : List Target}

/-! ## Widths -/

theorem toList_pushn (text : String) (c : Char) (n : Nat) :
    (text.pushn c n).toList = text.toList ++ List.replicate n c := by
  rw [String.pushn_eq_repeat_push]
  induction n with
  | zero => simp [Nat.repeat]
  | succ n ih => rw [Nat.repeat, String.toList_push, ih, List.append_assoc, List.replicate_succ']

theorem toList_fill (width : Nat) (text : String) :
    (fill width text).toList = text.toList ++ List.replicate (width - text.length) ' ' :=
  toList_pushn text ' ' (width - text.length)

/-- Every character takes a byte or more. -/
theorem length_le_utf8ByteSize (text : String) : text.length ≤ text.utf8ByteSize := by
  rw [← Text.byteLength_toList, ← String.length_toList]
  induction text.toList with
  | nil => exact Nat.le_refl 0
  | cons c rest ih =>
    have hsize := c.utf8Size_pos
    rw [List.length_cons, Text.byteLength]
    omega

theorem utf8ByteSize_le_nameWidth (h : t ∈ ts) : t.name.utf8ByteSize ≤ nameWidth ts := by
  have hwidth : nameWidth ts = (ts.map (·.name.utf8ByteSize)).foldl max 0 := by
    rw [nameWidth, List.foldl_map]
  have hle : t.name.utf8ByteSize ≤ (ts.map (·.name.utf8ByteSize)).max?.getD 0 :=
    List.le_max?_getD_of_mem (List.mem_map.mpr ⟨t, h, rfl⟩)
  rw [hwidth, List.foldl_max]
  exact Nat.le_trans hle (Nat.le_max_right 0 _)

/-- No name is wider than its column. -/
theorem length_le_nameWidth (h : t ∈ ts) : t.name.length ≤ nameWidth ts :=
  Nat.le_trans (length_le_utf8ByteSize t.name) (utf8ByteSize_le_nameWidth h)

theorem mode_eq (b : BundleSection) (t : Target) :
    mode b t = "concatenate" ∨ mode b t = "modules" := by
  unfold mode
  split
  · exact .inl rfl
  · exact .inr rfl

/-! ## Lines -/

/-- What the last column says of a target. -/
def destination (t : Target) : String :=
  (t.dest.map Path.text).getD "(no dest)"

/-- A line says what a target is, the whole name in front, the mode and the destination at their
places, and nothing but spaces between them, two at least. -/
def Columns (b : BundleSection) (t : Target) (modeAt destinationAt : Nat) (line : List Char) :
    Prop :=
  ∃ gap gap', line = t.name.toList ++ List.replicate gap ' ' ++ (mode b t).toList ++
      List.replicate gap' ' ' ++ (destination t).toList ∧
    2 ≤ gap ∧ t.name.length + gap = modeAt ∧
    2 ≤ gap' ∧ modeAt + (mode b t).length + gap' = destinationAt

/-- A line without the line break at its end. -/
def lineOf (b : BundleSection) (ts : List Target) (t : Target) : List Char :=
  t.name.toList ++ List.replicate (nameWidth ts - t.name.length + 2) ' ' ++ (mode b t).toList ++
    List.replicate (11 - (mode b t).length + 2) ' ' ++ (destination t).toList

theorem toList_targetLine (b : BundleSection) (ts : List Target) (t : Target) :
    (targetLine b (nameWidth ts) t).toList = lineOf b ts t ++ ['\n'] := by
  have hspaces : "  ".toList = List.replicate 2 ' ' := rfl
  have hbreak : "\n".toList = ['\n'] := rfl
  simp only [targetLine, lineOf, destination, String.toList_append, toList_fill, hspaces, hbreak,
    List.append_assoc, ← List.replicate_append_replicate]

/-- The text of a listing is made of its lines. -/
theorem toList_targets (b : BundleSection) (ts : List Target) :
    (targets b ts).toList = (ts.map (lineOf b ts)).flatMap (· ++ ['\n']) := by
  rw [targets, String.toList_join, List.flatMap_map, List.flatMap_map]
  simp only [toList_targetLine]

theorem targetLine_columns (h : t ∈ ts) :
    Columns b t (nameWidth ts + 2) (nameWidth ts + 15) (lineOf b ts t) := by
  have hname := length_le_nameWidth h
  have hmode : (mode b t).length ≤ 11 := by
    rcases mode_eq b t with hmode | hmode <;> rw [hmode] <;> decide
  refine ⟨_, _, rfl, ?_, ?_, ?_, ?_⟩ <;> omega

/-- In front of its destination, a line is not broken. -/
theorem Columns.not_mem_take {modeAt destinationAt : Nat} {line : List Char}
    (h : Columns b t modeAt destinationAt line) (hname : '\n' ∉ t.name.toList) :
    '\n' ∉ line.take destinationAt ∧ line.drop destinationAt = (destination t).toList := by
  obtain ⟨gap, gap', rfl, -, rfl, -, rfl⟩ := h
  have hmode : '\n' ∉ (mode b t).toList := by
    rcases mode_eq b t with hmode | hmode <;> rw [hmode] <;> decide
  have hfront : (t.name.toList ++ List.replicate gap ' ' ++ (mode b t).toList ++
      List.replicate gap' ' ').length = t.name.length + gap + (mode b t).length + gap' := by
    simp [String.length_toList, Nat.add_assoc]
  rw [← hfront, List.take_left, List.drop_left]
  refine ⟨?_, rfl⟩
  simp [hname, hmode]

/-- Lines are found again between the line breaks that end them. -/
theorem splitOn_lines {lines : List (List Char)} (h : ∀ line ∈ lines, '\n' ∉ line) :
    Text.splitOn '\n' (lines.flatMap (· ++ ['\n'])) = lines ++ [[]] := by
  induction lines with
  | nil => rfl
  | cons line rest ih =>
    have hline := h line List.mem_cons_self
    have hrest := ih fun other hother => h other (List.mem_cons_of_mem _ hother)
    rw [List.flatMap_cons, List.append_assoc, List.singleton_append, Text.splitOn_append_mark,
      Text.splitOn_of_not_mem hline, hrest]
    rfl

end ModuleBundler.Report
