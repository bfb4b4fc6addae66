/-
# ModuleBundler.Text.Octets -- bytes that may be no text

Any bytes can be shown as text, and any can be kept in one. Both ways cut them into
groups first (`groups`): the bytes of a character are one group, and so are bytes that
begin a character without ending it; any other byte stands alone. No byte is lost in
this (`flatten_groups`).

`shown` is for reading: a group that is no character shows as the one that stands for
what is unreadable. `ofOctets` is for keeping: every byte of such a group is written as
a character of a private range, which `toOctets` takes back (`toOctets_ofOctets`).
-/

import ModuleBundler.Text.Utf8

namespace ModuleBundler.Text

/-! ## Groups -/

/-- A group that was begun. -/
structure Begun where
  bytes : List UInt8
  /-- How many more bytes the character has. -/
  missing : Nat
  /-- The least byte that can be the next one. -/
  least : UInt8 := 0x80
  /-- The greatest byte that can be the next one. -/
  greatest : UInt8 := 0xBF
  deriving DecidableEq, Repr

namespace Begun

/-- The group that a byte begins, if it is the first of several bytes. -/
def of? (b : UInt8) : Option Begun :=
  if b < 0xC2 then none
  else if b < 0xE0 then some { bytes := [b], missing := 1 }
  else if b = 0xE0 then some { bytes := [b], missing := 2, least := 0xA0 }
  else if b = 0xED then some { bytes := [b], missing := 2, greatest := 0x9F }
  else if b < 0xF0 then some { bytes := [b], missing := 2 }
  else if b = 0xF0 then some { bytes := [b], missing := 3, least := 0x90 }
  else if b < 0xF4 then some { bytes := [b], missing := 3 }
  else if b = 0xF4 then some { bytes := [b], missing := 3, greatest := 0x8F }
  else none

theorem bytes_of? {b : UInt8} {g : Begun} (h : of? b = some g) : g.bytes = [b] := by
  unfold of? at h
  repeat' split at h
  all_goals first | contradiction | (obtain rfl := Option.some.inj h; rfl)

/-- Whether a byte can be the next one. -/
def takes (g : Begun) (b : UInt8) : Bool :=
  g.least ≤ b && b ≤ g.greatest

/-- The group with one byte more. -/
def add (g : Begun) (b : UInt8) : Begun :=
  { bytes := g.bytes ++ [b], missing := g.missing - 1 }

end Begun

/-- The groups of bytes, behind one that was begun. -/
def groupsFrom : Option Begun → List UInt8 → List (List UInt8)
  | none, [] => []
  | some g, [] => [g.bytes]
  | none, b :: rest =>
    match Begun.of? b with
    | some g => groupsFrom (some g) rest
    | none => [b] :: groupsFrom none rest
  | some g, b :: rest =>
    if g.takes b then
      if g.missing ≤ 1 then (g.bytes ++ [b]) :: groupsFrom none rest
      else groupsFrom (some (g.add b)) rest
    else
      g.bytes ::
        match Begun.of? b with
        | some g => groupsFrom (some g) rest
        | none => [b] :: groupsFrom none rest

/-- The bytes of a group that may have been begun. -/
def begunBytes (g : Option Begun) : List UInt8 :=
  (g.map Begun.bytes).getD []

theorem flatten_groupsFrom (g : Option Begun) (bytes : List UInt8) :
    (groupsFrom g bytes).flatten = begunBytes g ++ bytes := by
  fun_induction groupsFrom g bytes with
  | case1 => rfl
  | case2 g => simp [begunBytes]
  | case3 b rest g h ih => simp [ih, begunBytes, Begun.bytes_of? h]
  | case4 b rest h ih => simp [ih, begunBytes]
  | case5 g b rest ht hm ih => simp [ih, begunBytes]
  | case6 g b rest ht hm ih =>
    rw [ih]
    simp [begunBytes, Begun.add]
  | case7 g b rest ht ihSome ihNone =>
    cases h : Begun.of? b with
    | some g' => simp [ihSome, begunBytes, Begun.bytes_of? h]
    | none => simp [ihNone, begunBytes]

/-- The groups of bytes. -/
def groups (bytes : List UInt8) : List (List UInt8) :=
  groupsFrom none bytes

/-- The groups hold all bytes in order. -/
@[simp] theorem flatten_groups (bytes : List UInt8) : (groups bytes).flatten = bytes :=
  flatten_groupsFrom none bytes

/-! ## For reading -/

/-- Bytes as a text to be read. -/
def shown (bytes : List UInt8) : String :=
  match ofBytes? bytes with
  | some text => text
  | none => String.join ((groups bytes).map fun group => (ofBytes? group).getD "\uFFFD")

/-- The bytes of a text are shown as that text. -/
@[simp] theorem shown_toUTF8 (text : String) : shown text.toUTF8.toList = text := by
  simp only [shown, ofBytes?_eq_some_iff.mpr rfl]

/-! ## For keeping -/

/-- The character that stands for a byte. -/
def standIn (b : UInt8) : Char :=
  Char.ofNat (0x10FE00 + b.toNat)

/-- The byte that a character stands for. -/
def standInByte? (c : Char) : Option UInt8 :=
  if 0x10FE00 ≤ c.toNat && c.toNat ≤ 0x10FEFF then some (c.toNat - 0x10FE00).toUInt8 else none

@[simp] theorem standInByte?_standIn (b : UInt8) : standInByte? (standIn b) = some b := by
  have hb := b.toNat_lt
  have h : (standIn b).toNat = 0x10FE00 + b.toNat := by
    have hv : Nat.isValidChar (0x10FE00 + b.toNat) := Or.inr ⟨by omega, by omega⟩
    unfold standIn Char.ofNat
    rw [dif_pos hv]
    rfl
  simp [standInByte?, h]
  omega

/-- The bytes of a character, or the one that it stands for. -/
def octetsOf (c : Char) : List UInt8 :=
  match standInByte? c with
  | some b => [b]
  | none => String.utf8EncodeChar c

/-- The bytes that are kept in a text. -/
def toOctets (text : String) : List UInt8 :=
  text.toList.flatMap octetsOf

/-- A group kept in characters: as it reads, unless a byte or a character of it would
be taken for another. -/
def keep (group : List UInt8) : List Char :=
  match ofBytes? group with
  | some text =>
    if text.toList.all fun c => (standInByte? c).isNone then text.toList else group.map standIn
  | none => group.map standIn

/-- Bytes kept in a text. -/
def ofOctets (bytes : List UInt8) : String :=
  String.ofList ((groups bytes).flatMap keep)

theorem flatMap_octetsOf_standIn (group : List UInt8) :
    (group.map standIn).flatMap octetsOf = group := by
  induction group with
  | nil => rfl
  | cons b rest ih =>
    simp only [List.map_cons, List.flatMap_cons, ih]
    simp [octetsOf]

/-- A text without stand-ins keeps the bytes of its encoding. -/
theorem toOctets_eq_toUTF8 {text : String} (h : ∀ c ∈ text.toList, standInByte? c = none) :
    toOctets text = text.toUTF8.toList := by
  rw [toUTF8_toList]
  simp only [toOctets, List.flatMap]
  congr 1
  exact List.map_congr_left fun c hc => by simp [octetsOf, h c hc]

theorem flatMap_octetsOf_keep (group : List UInt8) : (keep group).flatMap octetsOf = group := by
  unfold keep
  split
  · rename_i text h
    split
    · rename_i hs
      simp only [List.all_eq_true, Option.isNone_iff_eq_none] at hs
      exact (toOctets_eq_toUTF8 hs).trans (ofBytes?_eq_some_iff.mp h)
    · exact flatMap_octetsOf_standIn group
  · exact flatMap_octetsOf_standIn group

/-- All bytes can be kept in a text. -/
@[simp] theorem toOctets_ofOctets (bytes : List UInt8) : toOctets (ofOctets bytes) = bytes := by
  simp only [toOctets, ofOctets, String.toList_ofList, List.flatMap_assoc, flatMap_octetsOf_keep]
  simp [List.flatMap]

end ModuleBundler.Text
