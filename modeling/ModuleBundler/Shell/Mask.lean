/-
# ModuleBundler.Shell.Mask -- the permissions that new files do not get

A mask is written with octal digits, or as changes to what is permitted: for whom
(`u`, `g`, `o`, or `a` for all), whether that is added, taken away or set (`+`, `-`,
`=`), and what (`r`, `w`, `x`, or what was permitted to someone).
-/

import ModuleBundler.Text.Search

namespace ModuleBundler.Shell

/-- The permissions that new files do not get, as nine bits. -/
structure Mask where
  bits : Nat := 0o22
  deriving DecidableEq, Repr

namespace Mask

/-- All permissions. -/
def everything : Nat := 0o777

/-- What is permitted under a mask. -/
def permitted (m : Mask) : Nat := everything ^^^ (m.bits &&& everything)

/-- The mask under which something is permitted. -/
def permitting (bits : Nat) : Mask := ⟨everything ^^^ (bits &&& everything)⟩

/-- A mask in octal digits. -/
def text (m : Mask) : String :=
  let digit (n : Nat) : Char := Nat.digitChar (n % 8)
  String.ofList ['0', digit (m.bits / 64), digit (m.bits / 8), digit m.bits]

/-- The mask that octal digits write. -/
def ofOctal? (text : String) : Option Mask :=
  if text.toList.all fun c => '0' ≤ c && c ≤ '7' then
    some ⟨(text.toList.foldl (fun n c => n * 8 + (c.toNat - '0'.toNat)) 0) &&& everything⟩
  else none

/-- What is permitted to someone, of three bits. -/
def permissionText (bits : Nat) : List Char :=
  (if bits &&& 4 = 0 then [] else ['r']) ++ (if bits &&& 2 = 0 then [] else ['w']) ++
    (if bits &&& 1 = 0 then [] else ['x'])

/-- A mask as what is permitted under it. -/
def symbolicText (m : Mask) : String :=
  let one (who : Char) (shift : Nat) := who :: '=' :: permissionText (m.permitted >>> shift)
  String.ofList (one 'u' 6 ++ ',' :: one 'g' 3 ++ ',' :: one 'o' 0)

/-- The last bit of those that someone has. -/
def whoBits? (c : Char) : Option Nat :=
  match c with
  | 'u' => some 0o100
  | 'g' => some 0o10
  | 'o' => some 0o1
  | 'a' => some 0o111
  | _ => none

/-- The three bits that a letter stands for, given what is permitted. -/
def permissionBits? (before : Nat) (c : Char) : Option Nat :=
  match c with
  | 'r' => some 4
  | 'w' => some 2
  | 'x' => some 1
  | 'X' => some (if before &&& 0o111 = 0 then 0 else 1)
  | 's' => some 0
  | 'u' => some (before >>> 6)
  | 'g' => some (before >>> 3)
  | 'o' => some before
  | _ => none

/-- Whether a character begins a change. -/
def isSign (c : Char) : Bool := c = '+' || c = '-' || c = '='

/-- What is permitted behind changes, given what was permitted before all of them and
is so now, and for whom the next one is; for everyone if that is not said. A clause
without a sign changes nothing. The number bounds the characters. -/
def changed (before : Nat) : Nat → Nat → List Char → Nat → Option Nat
  | 0, _, _, now => some now
  | _ + 1, _, [], now => some now
  | n + 1, who, text, now =>
    let whom := text.takeWhile fun c => (whoBits? c).isSome
    let who := whom.foldl (fun bits c => bits ||| (whoBits? c).getD 0) who
    let who := if who = 0 then 0o111 else who
    match text.drop whom.length with
    | [] => some now
    | sign :: text =>
      let letters := text.takeWhile fun c => (permissionBits? before c).isSome
      let bits := letters.foldl (fun bits c => bits ||| (permissionBits? before c).getD 0) 0
      let bits := (bits &&& 7) * who
      let now :=
        if sign = '+' then now ||| bits
        else if sign = '-' then now &&& (everything ^^^ bits)
        else (now &&& (everything ^^^ (who * 7))) ||| bits
      if !isSign sign then none
      else match text.drop letters.length with
        | [] => some now
        | c :: rest =>
          if c = ',' then changed before n 0 rest now
          else if isSign c then changed before n who (c :: rest) now
          else none

/-- The mask that changes to what is permitted make of one. -/
def ofChanges? (m : Mask) (text : String) : Option Mask :=
  (changed m.permitted (text.length + 1) 0 text.toList m.permitted).map permitting

end Mask

end ModuleBundler.Shell
