/-
# ModuleBundler.Proofs.Text.Utf8Order -- the order of texts is the order of their bytes

Texts are compared character by character, and other programs compare their UTF-8
bytes. The two orders are one (`lt_iff_toUTF8_lt`): a greater character has a greater
encoding, and they differ before either of them ends (`utf8EncodeChar_append_lt`). For the
same reason bytes that begin a text are characters that begin it
(`isPrefix_of_flatMap_utf8EncodeChar`).
-/

import Mathlib.Data.String.Basic
import ModuleBundler.Text.Utf8

namespace ModuleBundler.Text

/-- The encodings of two characters differ before one of them ends. -/
theorem utf8EncodeChar_append_lt {c d : Char} (h : c < d) (s t : List UInt8) :
    String.utf8EncodeChar c ++ s < String.utf8EncodeChar d ++ t := by
  have hlt : c.val.toNat < d.val.toNat := h
  have hbound : d.val.toNat < 0x110000 := by
    have hvalid := d.valid
    simp only [UInt32.isValidChar, Nat.isValidChar] at hvalid
    omega
  -- Six bits at a time, the first place where the two code points differ.
  have hplace : c.val.toNat / 262144 < d.val.toNat / 262144 ∨
      c.val.toNat / 262144 = d.val.toNat / 262144 ∧
        (c.val.toNat / 4096 < d.val.toNat / 4096 ∨ c.val.toNat / 4096 = d.val.toNat / 4096 ∧
          (c.val.toNat / 64 < d.val.toNat / 64 ∨ c.val.toNat / 64 = d.val.toNat / 64)) := by
    omega
  unfold String.utf8EncodeChar
  generalize c.val.toNat = m at hlt hplace
  generalize d.val.toNat = n at hlt hbound hplace
  dsimp only
  split_ifs <;>
    simp only [List.cons_append, List.nil_append, List.cons_lt_cons_iff, UInt8.lt_iff_toNat_lt,
      ← UInt8.toNat_inj, UInt8.toNat_ofNat'] <;>
    rcases hplace with h | ⟨_, h | ⟨_, h | h⟩⟩ <;>
    omega

theorem flatMap_utf8EncodeChar_lt {a b : List Char} (h : a < b) :
    a.flatMap String.utf8EncodeChar < b.flatMap String.utf8EncodeChar := by
  induction a generalizing b with
  | nil =>
    obtain ⟨d, more, rfl⟩ := List.exists_cons_of_ne_nil (fun hb : b = [] => by simp [hb] at h)
    obtain ⟨e, es, he⟩ := List.exists_cons_of_ne_nil (String.utf8EncodeChar_ne_nil (c := d))
    rw [List.flatMap_cons, he]
    exact List.nil_lt_cons e _
  | cons c rest ih =>
    obtain ⟨d, more, rfl⟩ := List.exists_cons_of_ne_nil (fun hb : b = [] => by simp [hb] at h)
    rw [List.flatMap_cons, List.flatMap_cons]
    rcases List.cons_lt_cons_iff.mp h with hlt | ⟨rfl, hlt⟩
    · exact utf8EncodeChar_append_lt hlt _ _
    · exact List.append_left_lt (ih hlt)

/-- A text whose bytes begin those of another begins the other. -/
theorem isPrefix_of_flatMap_utf8EncodeChar {a b : List Char}
    (h : a.flatMap String.utf8EncodeChar <+: b.flatMap String.utf8EncodeChar) : a <+: b := by
  induction a generalizing b with
  | nil => exact List.nil_prefix
  | cons c rest ih =>
    cases b with
    | nil =>
      have hnil := List.prefix_nil.mp h
      exact absurd (List.append_eq_nil_iff.mp hnil).1 String.utf8EncodeChar_ne_nil
    | cons d more =>
      obtain ⟨behind, hbehind⟩ := h
      rw [List.flatMap_cons, List.flatMap_cons, List.append_assoc] at hbehind
      -- Different characters would differ before either of them ends.
      rcases lt_trichotomy c d with hlt | rfl | hgt
      · have hless := utf8EncodeChar_append_lt hlt (rest.flatMap String.utf8EncodeChar ++ behind)
          (more.flatMap String.utf8EncodeChar)
        exact absurd (hbehind ▸ hless) (List.lt_irrefl _)
      · rw [List.append_cancel_left_eq] at hbehind
        exact List.cons_prefix_cons.mpr ⟨rfl, ih ⟨behind, hbehind⟩⟩
      · have hless := utf8EncodeChar_append_lt hgt (more.flatMap String.utf8EncodeChar)
          (rest.flatMap String.utf8EncodeChar ++ behind)
        exact absurd (hbehind ▸ hless) (List.lt_irrefl _)

/-- The order of texts is the order of their bytes. -/
theorem lt_iff_toUTF8_lt {a b : String} : a < b ↔ a.toUTF8.toList < b.toUTF8.toList := by
  rw [toUTF8_toList, toUTF8_toList, String.lt_iff_toList_lt]
  refine ⟨flatMap_utf8EncodeChar_lt, fun h => ?_⟩
  rcases lt_trichotomy a.toList b.toList with hlt | heq | hgt
  · exact hlt
  · rw [heq] at h
    exact absurd h (List.lt_irrefl _)
  · exact absurd h (List.lt_asymm (flatMap_utf8EncodeChar_lt hgt))

end ModuleBundler.Text
