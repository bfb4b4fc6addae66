/-
# ModuleBundler.Shell.CharacterSet -- sets of bytes as they are written

A set is written with single bytes, escapes, ranges (`a-z`), classes (`[:upper:]`),
bytes that count as one (`[=a=]`) and repetitions (`[x*3]`, or `[x*]` for as many as are
needed). The order of its bytes matters, and a byte may be in it more than once.

A set is kept as its parts (`read`), and seen as cells (`Element.cells`): a byte, how
often it stands there, and whether a class of letters begins with it.
-/

import ModuleBundler.Shell.Format
import ModuleBundler.Shell.Pattern

namespace ModuleBundler.Shell.CharacterSet

/-- A part of a set. -/
inductive Element where
  | single (b : UInt8)
  | range (first last : UInt8)
  | named (name : Bytes)
  /-- The bytes that count as the same as one; there is no other. -/
  | like (b : UInt8)
  /-- A byte so many times; for 0, as often as is needed. -/
  | repeated (b : UInt8) (count : Nat)
  deriving DecidableEq, Repr

/-- Why a set cannot be read. -/
inductive Fault where
  | reversed (first last : UInt8)
  | missingClass
  | missingLike
  | unknownClass (name : Bytes)
  | longLike (name : Bytes)
  | invalidCount (digits : Bytes)
  deriving DecidableEq, Repr

/-- What is odd about a set that can be read. -/
inductive Remark where
  /-- Three octal digits that are too much for a byte. -/
  | ambiguousOctal (first second third : UInt8)
  | trailingBackslash
  deriving DecidableEq, Repr

/-! ## Words -/

/-- A byte in a message. -/
def shownByte (b : UInt8) : List Char :=
  if 0x20 ≤ b && b < 0x7F then [Char.ofNat b.toNat]
  else '\\' :: [b.toNat / 64, b.toNat / 8, b.toNat].map fun n => Nat.digitChar (n % 8)

/-- Bytes in a message, with the escapes by which they could be written. -/
def shownBytes (bytes : Bytes) : String :=
  String.ofList (bytes.flatMap fun b =>
    match ['\\', 'a', 'b', 'f', 'n', 'r', 't', 'v'].find? fun c =>
        (Format.escape? c).map Pattern.ascii = some b with
    | some c => ['\\', c]
    | none => shownByte b)

/-- The fault in words; `quoted` puts a text into quotes. -/
def Fault.message (quoted : String → String) : Fault → String
  | reversed first last =>
    "range-endpoints of '" ++ String.ofList (shownByte first ++ '-' :: shownByte last) ++
      "' are in reverse collating sequence order"
  | missingClass => "missing character class name '[::]'"
  | missingLike => "missing equivalence class character '[==]'"
  | unknownClass name => "invalid character class " ++ quoted (shownBytes name)
  | longLike name => shownBytes name ++ ": equivalence class operand must be a single character"
  | invalidCount digits =>
    "invalid repeat count " ++ quoted (shownBytes digits) ++ " in [c*n] construct"

/-- The remark in words. -/
def Remark.message : Remark → String
  | ambiguousOctal a b c =>
    let digits := Text.ofOctets [a, b]
    "warning: the ambiguous octal escape \\" ++ digits ++ Text.ofOctets [c] ++
      " is being\n\tinterpreted as the 2-byte sequence \\0" ++ digits ++ ", " ++ Text.ofOctets [c]
  | trailingBackslash => "warning: an unescaped backslash at end of string is not portable"

/-! ## Reading -/

/-- A byte that is written, and whether it was escaped. -/
abbrev Written := UInt8 × Bool

/-- An ASCII character that was not escaped. -/
def plain (c : Char) : Written := (Pattern.ascii c, false)

/-- Whether a byte is an octal digit. -/
def isOctal (b : UInt8) : Bool :=
  Pattern.ascii '0' ≤ b && b ≤ Pattern.ascii '7'

/-- The value of octal digits. -/
def octalValue (digits : Bytes) : Nat :=
  digits.foldl (fun n b => n * 8 + (b.toNat - '0'.toNat)) 0

/-- The bytes of a text without its escapes. The number bounds the bytes. -/
def unescaped : Nat → Bytes → List Written × List Remark
  | 0, _ => ([], [])
  | _ + 1, [] => ([], [])
  | n + 1, b :: rest =>
    let behind (front : Written) (remarks : List Remark) (rest : Bytes) :
        List Written × List Remark :=
      let (bytes, others) := unescaped n rest
      (front :: bytes, remarks ++ others)
    if b ≠ Pattern.ascii '\\' then behind (b, false) [] rest
    else match rest with
      | [] => behind (b, false) [.trailingBackslash] []
      | c :: others =>
        match rest.take 3 |>.takeWhile isOctal with
        | [] => behind (((Format.escape? (Char.ofNat c.toNat)).map Pattern.ascii).getD c, true) [] others
        | [x, y, z] =>
          if octalValue [x, y, z] < 256 then
            behind ((octalValue [x, y, z]).toUInt8, true) [] (rest.drop 3)
          else behind ((octalValue [x, y]).toUInt8, true) [.ambiguousOctal x y z] (rest.drop 2)
        | digits => behind ((octalValue digits).toUInt8, true) [] (rest.drop digits.length)

/-- What stands in front of a mark with a closing bracket, and what stands behind it. -/
def upTo? (mark : Written) : List Written → Option (Bytes × List Written)
  | a :: b :: rest =>
    if a = mark && b = plain ']' then some ([], rest)
    else (upTo? mark (b :: rest)).map fun found => (a.1 :: found.1, found.2)
  | _ => none

/-- The greatest count of a repetition. -/
def greatestCount : Nat := UInt64.size - 2

/-- The count that a text writes, in octal behind a zero. -/
def count? (text : Bytes) : Option Nat :=
  if text.isEmpty then some 0
  else
    let isBlank (b : UInt8) : Bool := b = 0x20 || 9 ≤ b && b ≤ 13
    let digits := text.dropWhile isBlank
    let digits := if digits.head? = some (Pattern.ascii '+') then digits.drop 1 else digits
    let isDigit (b : UInt8) : Bool := Pattern.ascii '0' ≤ b && b ≤ Pattern.ascii '9'
    let value :=
      if text.head? = some (Pattern.ascii '0') then
        if digits.all isOctal then some (octalValue digits) else none
      else if digits.isEmpty || !digits.all isDigit then none
      else some (digits.foldl (fun n b => n * 10 + (b.toNat - '0'.toNat)) 0)
    value.filter (· ≤ greatestCount)

/-- Reads a repetition behind its opening bracket: its byte, what stands for its count,
and what stands behind it. -/
def repetition? : List Written → Option (UInt8 × Bytes × List Written)
  | (b, _) :: star :: text =>
    let inside := text.takeWhile fun w => !w.2 && w ≠ plain ']'
    match text.drop inside.length with
    | close :: rest =>
      if star = plain '*' && close = plain ']' then some (b, inside.map Prod.fst, rest) else none
    | [] => none
  | _ => none

/-- Whether a star, digits and a closing bracket stand in front. -/
def startsWithCount : List Written → Bool
  | star :: text =>
    let digits := text.takeWhile fun w => (Char.ofNat w.1.toNat).isDigit
    star = plain '*' && (text.drop digits.length).head? = some (plain ']')
  | [] => false

/-- Reads a repetition, if there is one, as a part. -/
def repeated? (text : List Written) : Except Fault (Option (Element × List Written)) :=
  match repetition? text with
  | none => .ok none
  | some (b, digits, rest) =>
    match count? digits with
    | some count => .ok (some (.repeated b count, rest))
    | none => .error (.invalidCount digits)

/-- Reads what stands behind an opening bracket, if that is more than a bracket. -/
def bracketed? (text : List Written) : Except Fault (Option (Element × List Written)) :=
  match text with
  | mark :: inside =>
    match if mark = plain ':' || mark = plain '=' then upTo? mark inside else none with
    | none => repeated? text
    | some (name, rest) =>
      if mark = plain ':' then
        if name.isEmpty then .error .missingClass
        else if (Pattern.classRanges? name).isSome then .ok (some (.named name, rest))
        else if startsWithCount inside then repeated? text
        else .error (.unknownClass name)
      else match name with
        | [] => .error .missingLike
        | [b] => .ok (some (.like b, rest))
        | name => if startsWithCount inside then repeated? text else .error (.longLike name)
  | [] => .ok none

/-- The parts that bytes write. The number bounds the bytes. -/
def partsFrom : Nat → List Written → Except Fault (List Element)
  | 0, _ => .ok []
  | _ + 1, [] => .ok []
  | n + 1, (b, isEscaped) :: rest => do
    let construct ←
      if rest.length < 2 || isEscaped || b ≠ Pattern.ascii '[' then .ok none else bracketed? rest
    match construct, rest with
    | some (part, behind), _ => return part :: (← partsFrom n behind)
    | none, dash :: (last, _) :: behind =>
      if dash ≠ plain '-' then return .single b :: (← partsFrom n rest)
      else if last < b then .error (.reversed b last)
      else return .range b last :: (← partsFrom n behind)
    | none, _ => return .single b :: (← partsFrom n rest)

/-- The parts of the set that bytes write, and what is odd about it. -/
def read (text : Bytes) : List Remark × Except Fault (List Element) :=
  let (bytes, remarks) := unescaped (text.length + 1) text
  (remarks, partsFrom (bytes.length + 1) bytes)

/-! ## Bytes -/

/-- The bytes from one to another. -/
def between (first last : UInt8) : Bytes :=
  (List.range (last.toNat + 1 - first.toNat)).map fun n => (first.toNat + n).toUInt8

/-- The bytes of a class in order. -/
def classBytes (name : Bytes) : Bytes :=
  (between 0 255).filter fun b =>
    ((Pattern.classRanges? name).getD []).any fun r => r.1 ≤ b && b ≤ r.2

/-- The letters of a case. -/
inductive LetterCase where
  | upper
  | lower
  deriving DecidableEq, Repr

/-- The number of letters. -/
def letterCount : Nat := 26

namespace LetterCase

/-- The case that a class has the letters of, if it is one. -/
def ofClass? (name : Bytes) : Option LetterCase :=
  if name = "upper".toUTF8.toList then some .upper
  else if name = "lower".toUTF8.toList then some .lower
  else none

/-- The letters of a case in order. -/
def letters : LetterCase → Bytes
  | upper => between (Pattern.ascii 'A') (Pattern.ascii 'Z')
  | lower => between (Pattern.ascii 'a') (Pattern.ascii 'z')

end LetterCase

/-- A byte of a set, how often it stands there, and the case whose letters begin with it,
if the set names that one here. -/
structure Cell where
  byte : UInt8
  count : Nat := 1
  opens : Option LetterCase := none
  deriving DecidableEq, Repr

namespace Element

/-- The bytes of a part. A repetition that is still without a count has none. -/
def cells : Element → List Cell
  | single b => [{ byte := b }]
  | range first last => (between first last).map ({ byte := · })
  | named name =>
    match classBytes name with
    | [] => []
    | b :: rest => { byte := b, opens := LetterCase.ofClass? name } :: rest.map ({ byte := · })
  | like b => [{ byte := b }]
  | repeated _ 0 => []
  | repeated b count => [{ byte := b, count := count }]

/-- Whether a part is repeated as often as is needed. -/
def isOpen : Element → Bool
  | repeated _ 0 => true
  | _ => false

/-- Whether a part is a class. -/
def isClass : Element → Bool
  | named _ => true
  | _ => false

end Element

/-- The bytes of a set. -/
def cellsOf (set : List Element) : List Cell := set.flatMap Element.cells

/-- How many bytes stand in a set. -/
def size (set : List Element) : Nat :=
  (cellsOf set).foldl (fun n cell => n + cell.count) 0

/-- Whether a byte is in a set. -/
def holds (set : List Element) (b : UInt8) : Bool :=
  (cellsOf set).any fun cell => cell.byte == b

/-- A set that holds `wanted` bytes if there is a part to be repeated as often as that
needs. -/
def stretched (wanted : Nat) (set : List Element) : List Element :=
  set.map fun part =>
    match part with
    | .repeated b 0 => .repeated b (wanted - size set)
    | part => part

end ModuleBundler.Shell.CharacterSet
