/-
# ModuleBundler.Shell.CharacterMap -- replacing and deleting bytes

`tr` maps the bytes of one set to those of another, deletes a set, or squeezes runs of
one byte. The first set may stand for its complement. Bytes are mapped by their places:
the second set is filled up with its last byte, unless the first one is to be cut to its
length. A class of letters in the second set converts the case of one in the first set,
which has to stand at the same place.
-/

import ModuleBundler.Shell.CharacterSet
import ModuleBundler.Shell.Tool.Quoting
import ModuleBundler.Shell.Tool.Switch

namespace ModuleBundler.Shell.CharacterMap

open CharacterSet (Element Cell LetterCase)

/-- What is asked of the bytes. -/
structure Request where
  complement : Bool := false
  delete : Bool := false
  squeeze : Bool := false
  cut : Bool := false
  deriving DecidableEq, Repr

/-- Why a request is refused. -/
inductive Fault where
  | options (fault : SwitchFault)
  | missing
  | missingAfter (operand : String) (squeezes : Bool)
  | extra (operand : String) (isSecond : Bool)
  | set (fault : CharacterSet.Fault)
  | tooLong
  | openFirst
  | openTwice
  | openUnmapped
  | likeSecond
  | classSecond
  | misaligned
  | emptySecond
  | classAtEnd
  | manyForComplement
  deriving DecidableEq, Repr

/-- The fault in words. -/
def Fault.message : Fault → String
  | options fault => fault.message
  | missing => "missing operand"
  | missingAfter operand squeezes =>
    "missing operand after " ++ Tool.escapedQuote operand ++ "\nTwo strings must be given when " ++
      (if squeezes then "both deleting and squeezing repeats." else "translating.")
  | extra operand isSecond =>
    "extra operand " ++ Tool.escapedQuote operand ++
      (if isSecond then "\nOnly one string may be given when deleting without squeezing repeats."
        else "")
  | set fault => fault.message Tool.escapedQuote
  | tooLong => "too many characters in set"
  | openFirst => "the [c*] repeat construct may not appear in string1"
  | openTwice => "only one [c*] repeat construct may appear in string2"
  | openUnmapped => "the [c*] construct may appear in string2 only when translating"
  | likeSecond => "[=c=] expressions may not appear in string2 when translating"
  | classSecond =>
    "when translating, the only character classes that may appear in\nstring2 are 'upper' and 'lower'"
  | misaligned => "misaligned [:upper:] and/or [:lower:] construct"
  | emptySecond => "when not truncating set1, string2 must be non-empty"
  | classAtEnd =>
    "when translating with string1 longer than string2,\nthe latter string must not end with a character class"
  | manyForComplement =>
    "when translating with complemented character classes,\nstring2 must map all characters in the domain to one"

/-- Whether a fault lies in how the program was called. -/
def Fault.isMisuse : Fault → Bool
  | options _ => true
  | missing => true
  | missingAfter _ _ => true
  | extra _ _ => true
  | _ => false

/-! ## Mapping -/

/-- What the letters of a case become, where the second set names a case. -/
def converted (first second : LetterCase) : List (UInt8 × UInt8) :=
  if first = second then [] else first.letters.zip second.letters

/-- The bytes of two sets, place by place, up to the end of one of them; nothing if a
class of letters in the second stands at a place where the first has none. -/
def pairs? : List Cell → List Cell → Option (List (UInt8 × UInt8))
  | _, [] => some []
  | [], b :: _ => if b.opens.isSome then none else some []
  | a :: first, b :: second =>
    match a.opens, b.opens with
    | none, some _ => none
    | some from_, some to_ =>
      (pairs? (first.drop (CharacterSet.letterCount - 1))
        (second.drop (CharacterSet.letterCount - 1))).map (converted from_ to_ ++ ·)
    | _, none =>
      let rest :=
        if a.count < b.count then pairs? first ({ b with count := b.count - a.count } :: second)
        else if b.count < a.count then
          pairs? ({ a with count := a.count - b.count, opens := none } :: first) second
        else pairs? first second
      rest.map ((a.byte, b.byte) :: ·)
termination_by first second => first.length + second.length
decreasing_by all_goals (simp only [List.length_cons, List.length_drop]; omega)

/-- The byte that one becomes: of several, the last one. -/
def mapped (pairs : List (UInt8 × UInt8)) (b : UInt8) : UInt8 :=
  ((pairs.reverse.find? fun pair => pair.1 == b).map Prod.snd).getD b

/-- Runs of one byte that is to be squeezed, each as a single one. -/
def squeezed (isMember : UInt8 → Bool) : Bytes → Bytes
  | a :: b :: rest =>
    if a = b && isMember a then squeezed isMember (b :: rest)
    else a :: squeezed isMember (b :: rest)
  | rest => rest

/-! ## Requests -/

namespace Request

/-- How many sets a request asks for: the least and the most. -/
def setCount (r : Request) : Nat × Nat :=
  if r.delete && r.squeeze then (2, 2)
  else if r.delete then (1, 1)
  else if r.squeeze then (1, 2)
  else (2, 2)

/-- The bytes of the first set, or those that are not in it. -/
def domain (r : Request) (first : List Element) : List Cell :=
  if r.complement then
    ((CharacterSet.between 0 255).filter (!CharacterSet.holds first ·)).map ({ byte := · })
  else CharacterSet.cellsOf first

/-- The last byte of a set that others are filled up with. -/
def filling (second : List Element) : Except Fault UInt8 :=
  match second.getLast? with
  | some (.single b) => .ok b
  | some (.range _ b) => .ok b
  | some (.like b) => .ok b
  | some (.repeated b _) => .ok b
  | some (.named _) => .error .classAtEnd
  | none => .error .emptySecond

/-- The second set as bytes are mapped to it. -/
def image (r : Request) (first second : List Element) : Except Fault (List Element) := do
  let length := (r.domain first).foldl (fun n cell => n + cell.count) 0
  let second := CharacterSet.stretched length second
  let isOther (part : Element) : Bool :=
    match part with
    | .named name => (LetterCase.ofClass? name).isNone
    | _ => false
  let isLike (part : Element) : Bool :=
    match part with
    | .like _ => true
    | _ => false
  if second.any isLike then throw .likeSecond
  else if second.any isOther then throw .classSecond
  else if !r.complement && (pairs? (r.domain first) (CharacterSet.cellsOf second)).isNone then
    throw .misaligned
  else
    let missing := length - CharacterSet.size second
    let filled ←
      if missing = 0 || r.cut then pure second
      else if CharacterSet.size second = 0 then throw .emptySecond
      else do pure (second ++ [.repeated (← filling second) missing])
    let bytes := (CharacterSet.cellsOf filled).map Cell.byte
    let isOne := !bytes.isEmpty && bytes.all (some · == bytes.head?)
    if r.complement && first.any Element.isClass && !(CharacterSet.size filled = length && isOne) then
      throw .manyForComplement
    else return filled

/-- What a request makes of bytes with two sets or one. -/
def apply (r : Request) (first : List Element) (second? : Option (List Element)) :
    Except Fault (Bytes → Bytes) := do
  let inDomain (b : UInt8) : Bool := CharacterSet.holds first b != r.complement
  if CharacterSet.greatestCount < CharacterSet.size first then throw .tooLong
  else if first.any Element.isOpen then throw .openFirst
  else match second? with
    | none =>
      return if r.delete then List.filter (!inDomain ·) else squeezed inDomain
    | some second =>
      if CharacterSet.greatestCount < CharacterSet.size second then throw .tooLong
      else if 1 < (second.filter Element.isOpen).length then throw .openTwice
      else if r.delete then
        if second.any Element.isOpen then throw .openUnmapped
        else return squeezed (CharacterSet.holds second) ∘ List.filter (!inDomain ·)
      else
        let second ← r.image first second
        let cells := CharacterSet.cellsOf second
        let cells := if r.complement then cells.map ({ · with opens := none }) else cells
        let table := (CharacterSet.between 0 255).map
          (mapped ((pairs? (r.domain first) cells).getD []))
        let replaced (b : UInt8) : UInt8 := table.getD b.toNat b
        return if r.squeeze then squeezed (CharacterSet.holds second) ∘ List.map replaced
          else List.map replaced

end Request

/-- The options in front of the sets. -/
def switches : List Switch :=
  [ { key := "plain", letter := some 'A' },
    { key := "complement", letter := some 'c', word := some "complement" },
    { key := "complement", letter := some 'C' },
    { key := "delete", letter := some 'd', word := some "delete" },
    { key := "squeeze", letter := some 's', word := some "squeeze-repeats" },
    { key := "cut", letter := some 't', word := some "truncate-set1" },
    { key := "help", word := some "help" },
    { key := "version", word := some "version" } ]

/-- What options ask for. -/
def Request.ofGiven (g : Given) : Request :=
  { complement := g.has "complement", delete := g.has "delete", squeeze := g.has "squeeze",
    cut := g.has "cut" }

/-- The operands of a request, which are one set or two. -/
def Request.operands (r : Request) (operands : List String) : Except Fault (List String) :=
  let (least, most) := r.setCount
  match operands.drop most with
  | operand :: _ => .error (.extra operand (operands.length = 2))
  | [] =>
    if least ≤ operands.length then .ok operands
    else match operands.getLast? with
      | some operand => .error (.missingAfter operand r.squeeze)
      | none => .error .missing

/-- What arguments ask to be made of bytes, and what is odd about that. -/
def ofArguments (arguments : List String) :
    List CharacterSet.Remark × Except Fault (Bytes → Bytes) :=
  let g := Switch.read switches true arguments
  if g.has "help" || g.has "version" then ([], .ok fun _ => [])
  else match g.fault with
  | some fault => ([], .error (.options fault))
  | none =>
    let r := Request.ofGiven g
    match r.operands g.operands with
    | .error fault => ([], .error fault)
    | .ok operands =>
      match operands.map fun operand => CharacterSet.read (Text.toOctets operand) with
      | [] => ([], .error .missing)
      | (remarks, .error fault) :: _ => (remarks, .error (.set fault))
      | [(remarks, .ok first)] => (remarks, r.apply first none)
      | (remarks, .ok first) :: (others, second) :: _ =>
        (remarks ++ others,
          match second with
          | .error fault => .error (.set fault)
          | .ok second => r.apply first (some second))

end ModuleBundler.Shell.CharacterMap
