/-
# ModuleBundler.Proofs.Text.Position -- byte offsets of what stands in a text

A search is answered with a byte offset, counted from the front of the whole text, also when it
starts further behind. `OccursAt` and `FirstFrom` say what such an offset means, without the
search. Main statements: `firstFrom_append_iff` and `noneFrom_append_iff`, a search that starts
between two characters is a search of what stands behind them.

A text can be cut at an offset exactly if some of its characters take up that many bytes
(`isBoundary_iff`). Offsets that searches return are such offsets.
-/

import ModuleBundler.Proofs.Text.Occurrence
import ModuleBundler.Text.Utf8

namespace ModuleBundler.Text

variable {needle front rest text : List Char} {start k : Nat}

/-! ## Front parts and their bytes -/

/-- Front parts of one text with the same number of bytes are the same. -/
theorem eq_of_append_eq_of_byteLength {a b a' b' : List Char} (h : a ++ a' = b ++ b')
    (hlen : byteLength a = byteLength b) : a = b := by
  have hcut : takeBytes (byteLength a) (a ++ a') = takeBytes (byteLength b) (b ++ b') := by
    rw [h, hlen]
  rwa [takeBytes_append, takeBytes_append] at hcut

theorem byteLength_le_of_isPrefix {a b : List Char} (h : a <+: b) :
    byteLength a ≤ byteLength b := by
  obtain ⟨more, rfl⟩ := h
  rw [byteLength_append]
  exact Nat.le_add_right _ _

/-- Of two front parts of one text, the one with fewer bytes is in front of the other. -/
theorem isPrefix_of_byteLength_le {a b : List Char} (ha : a <+: text) (hb : b <+: text)
    (hle : byteLength a ≤ byteLength b) : a <+: b := by
  rcases List.prefix_or_prefix_of_prefix ha hb with hab | hba
  · exact hab
  · -- Then both have the same number of bytes.
    have hlen : byteLength a = byteLength b := le_antisymm hle (byteLength_le_of_isPrefix hba)
    obtain ⟨more, rfl⟩ := hba
    have hwhole : (b ++ more) ++ [] = b ++ more := List.append_nil _
    rw [eq_of_append_eq_of_byteLength hwhole hlen]

/-! ## Cuts -/

/-- An offset at which a text can be cut: it falls between two characters, or on an end. -/
def IsBoundary (offset : Nat) (text : List Char) : Prop :=
  (⟨offset⟩ : String.Pos.Raw).IsValid (String.ofList text)

theorem isBoundary_iff {offset : Nat} :
    IsBoundary offset text ↔ ∃ front, front <+: text ∧ byteLength front = offset := by
  rw [IsBoundary, String.Pos.Raw.isValid_iff_exists_append]
  constructor
  · rintro ⟨front, behind, htext, hoffset⟩
    refine ⟨front.toList, ⟨behind.toList, ?_⟩, ?_⟩
    · rw [← String.toList_append, ← htext, String.toList_ofList]
    · rw [byteLength_toList]
      exact (congrArg String.Pos.Raw.byteIdx hoffset).symm
  · rintro ⟨front, ⟨behind, rfl⟩, rfl⟩
    refine ⟨String.ofList front, String.ofList behind, String.ofList_append, ?_⟩
    rw [byteLength_eq_utf8ByteSize]
    rfl

theorem IsBoundary.le_byteLength {offset : Nat} (h : IsBoundary offset text) :
    offset ≤ byteLength text := by
  obtain ⟨front, hfront, rfl⟩ := isBoundary_iff.mp h
  exact byteLength_le_of_isPrefix hfront

/-- At a boundary, nothing is lost when a text is cut. -/
theorem IsBoundary.byteLength_takeBytes {offset : Nat} (h : IsBoundary offset text) :
    byteLength (takeBytes offset text) = offset := by
  obtain ⟨front, ⟨behind, rfl⟩, rfl⟩ := isBoundary_iff.mp h
  rw [takeBytes_append]

/-- Between two boundaries, a slice is what a text has there. -/
theorem IsBoundary.byteLength_sliceBytes {stop : Nat} (hstart : IsBoundary start text)
    (hstop : IsBoundary stop text) (hle : start ≤ stop) :
    byteLength (sliceBytes start stop text) = stop - start ∧
      takeBytes start text ++ sliceBytes start stop text ++ dropBytes stop text = text := by
  obtain ⟨front, hfront, rfl⟩ := isBoundary_iff.mp hstart
  obtain ⟨long, hlong, rfl⟩ := isBoundary_iff.mp hstop
  obtain ⟨middle, rfl⟩ := isPrefix_of_byteLength_le hfront hlong hle
  obtain ⟨behind, rfl⟩ := hlong
  have hslice : sliceBytes (byteLength front) (byteLength (front ++ middle))
      (front ++ middle ++ behind) = middle := by
    have hlen : byteLength (front ++ middle) - byteLength front = byteLength middle := by
      rw [byteLength_append, Nat.add_sub_cancel_left]
    rw [sliceBytes, hlen, List.append_assoc, dropBytes_append, takeBytes_append]
  refine ⟨?_, ?_⟩
  · rw [hslice, byteLength_append, Nat.add_sub_cancel_left]
  · rw [hslice, dropBytes_append, List.append_assoc front, takeBytes_append, List.append_assoc]

/-! ## Occurrences at an offset -/

/-- The needle stands in a text, with `k` bytes in front of it. -/
def OccursAt (needle : List Char) (k : Nat) (text : List Char) : Prop :=
  ∃ front, front ++ needle <+: text ∧ byteLength front = k

/-- `k` is the first offset from `start` on at which the needle stands in a text. -/
structure FirstFrom (needle : List Char) (start k : Nat) (text : List Char) : Prop where
  occurs : OccursAt needle k text
  le : start ≤ k
  least : ∀ j, OccursAt needle j text → start ≤ j → k ≤ j

/-- The needle does not stand in a text at any offset from `start` on. -/
def NoneFrom (needle : List Char) (start : Nat) (text : List Char) : Prop :=
  ∀ k, OccursAt needle k text → k < start

theorem FirstFrom.unique {j : Nat} (h : FirstFrom needle start k text)
    (h' : FirstFrom needle start j text) : k = j :=
  le_antisymm (h.least j h'.occurs h'.le) (h'.least k h.occurs h.le)

theorem FirstFrom.not_noneFrom (h : FirstFrom needle start k text) :
    ¬ NoneFrom needle start text := by
  intro hnone
  exact absurd (hnone k h.occurs) (Nat.not_lt_of_le h.le)

theorem OccursAt.isBoundary (h : OccursAt needle k text) : IsBoundary k text := by
  obtain ⟨front, hfront, rfl⟩ := h
  exact isBoundary_iff.mpr ⟨front, (List.prefix_append _ _).trans hfront, rfl⟩

theorem OccursAt.isBoundary_end (h : OccursAt needle k text) :
    IsBoundary (k + byteLength needle) text := by
  obtain ⟨front, hfront, rfl⟩ := h
  exact isBoundary_iff.mpr ⟨front ++ needle, hfront, byteLength_append _ _⟩

/-- What stands at one offset starts with one character. -/
theorem OccursAt.head_eq {c d : Char} {cs ds : List Char} (h : OccursAt (c :: cs) k text)
    (h' : OccursAt (d :: ds) k text) : c = d := by
  obtain ⟨front, ⟨behind, rfl⟩, rfl⟩ := h
  obtain ⟨front', ⟨behind', htext⟩, hlen⟩ := h'
  rw [List.append_assoc, List.append_assoc] at htext
  obtain rfl : front' = front := eq_of_append_eq_of_byteLength htext hlen
  have hsame : d :: (ds ++ behind') = c :: (cs ++ behind) := List.append_cancel_left htext
  exact (List.cons.inj hsame).1.symm

/-- An occurrence behind a front part is one in the rest. -/
theorem occursAt_append_iff :
    OccursAt needle (byteLength front + k) (front ++ rest) ↔ OccursAt needle k rest := by
  constructor
  · rintro ⟨long, hlong, hlen⟩
    have hinside : front <+: long := by
      refine isPrefix_of_byteLength_le (List.prefix_append _ rest)
        ((List.prefix_append _ _).trans hlong) ?_
      omega
    obtain ⟨before, rfl⟩ := hinside
    rw [List.append_assoc, List.prefix_append_right_inj] at hlong
    rw [byteLength_append] at hlen
    exact ⟨before, hlong, Nat.add_left_cancel hlen⟩
  · rintro ⟨before, hbefore, rfl⟩
    refine ⟨front ++ before, ?_, byteLength_append _ _⟩
    rw [List.append_assoc, List.prefix_append_right_inj]
    exact hbefore

theorem exists_occursAt_iff : (∃ k, OccursAt needle k text) ↔ needle <:+: text := by
  constructor
  · rintro ⟨k, front, hfront, -⟩
    exact (List.suffix_append _ _).isInfix.trans hfront.isInfix
  · rintro ⟨front, behind, rfl⟩
    exact ⟨_, front, List.prefix_append _ _, rfl⟩

/-- The first offset is that of the first occurrence. -/
theorem firstFrom_append_iff :
    FirstFrom needle (byteLength front) k (front ++ rest) ↔
      ∃ before, FirstBehind needle before rest ∧ k = byteLength front + byteLength before := by
  constructor
  · rintro ⟨hoccurs, hle, hleast⟩
    obtain ⟨j, rfl⟩ := Nat.exists_eq_add_of_le hle
    obtain ⟨before, hbefore, rfl⟩ := occursAt_append_iff.mp hoccurs
    refine ⟨before, ⟨hbefore, ?_⟩, rfl⟩
    intro other hother
    have hlater := hleast _ (occursAt_append_iff.mpr ⟨other, hother, rfl⟩) (Nat.le_add_right _ _)
    have hinside : before <+: other := by
      refine isPrefix_of_byteLength_le ((List.prefix_append _ _).trans hbefore)
        ((List.prefix_append _ _).trans hother) ?_
      omega
    exact hinside.length_le
  · rintro ⟨before, ⟨hbefore, hleast⟩, rfl⟩
    refine ⟨occursAt_append_iff.mpr ⟨before, hbefore, rfl⟩, Nat.le_add_right _ _, ?_⟩
    intro j hj hle
    obtain ⟨i, rfl⟩ := Nat.exists_eq_add_of_le hle
    obtain ⟨other, hother, rfl⟩ := occursAt_append_iff.mp hj
    have hinside : before <+: other := by
      refine List.prefix_of_prefix_length_le ((List.prefix_append _ _).trans hbefore)
        ((List.prefix_append _ _).trans hother) ?_
      exact hleast other hother
    exact Nat.add_le_add_left (byteLength_le_of_isPrefix hinside) _

/-- Where nothing stands from an offset on, the rest does not hold the needle. -/
theorem noneFrom_append_iff :
    NoneFrom needle (byteLength front) (front ++ rest) ↔ ¬ needle <:+: rest := by
  rw [← exists_occursAt_iff]
  constructor
  · rintro hnone ⟨j, hj⟩
    have := hnone _ (occursAt_append_iff.mpr hj)
    omega
  · intro hnot j hj
    by_contra hge
    obtain ⟨i, rfl⟩ := Nat.exists_eq_add_of_le (Nat.le_of_not_lt hge)
    exact hnot ⟨i, occursAt_append_iff.mp hj⟩

theorem firstFrom_zero_iff :
    FirstFrom needle 0 k text ↔
      ∃ before, FirstBehind needle before text ∧ k = byteLength before := by
  have h := @firstFrom_append_iff needle [] text k
  simpa [byteLength] using h

/-- A front part without a character can be passed over in the search for it. -/
theorem firstBehind_singleton_append_iff {c : Char} {before : List Char} (hc : c ∉ front) :
    FirstBehind [c] before (front ++ rest) ↔
      ∃ behind, before = front ++ behind ∧ FirstBehind [c] behind rest := by
  simp only [firstBehind_singleton_iff]
  constructor
  · rintro ⟨hhere, hnot⟩
    -- Otherwise the character would stand inside the front part.
    have hinside : front <+: before := by
      rcases List.prefix_or_prefix_of_prefix (List.prefix_append front rest) hhere with h | h
      · rcases List.prefix_concat_iff.mp h with heq | h
        · exact absurd (by rw [heq]; simp) hc
        · exact h
      · exact absurd (h.subset (by simp)) hc
    obtain ⟨behind, rfl⟩ := hinside
    rw [List.append_assoc, List.prefix_append_right_inj] at hhere
    exact ⟨behind, rfl, hhere, fun h => hnot (List.mem_append_right _ h)⟩
  · rintro ⟨behind, rfl, hhere, hnot⟩
    refine ⟨?_, ?_⟩
    · rw [List.append_assoc, List.prefix_append_right_inj]
      exact hhere
    · rw [List.mem_append, not_or]
      exact ⟨hc, hnot⟩

end ModuleBundler.Text
