/-
# ModuleBundler.Shell.Format -- escapes and formats

The escapes that `echo` and formats know, and what a format makes of its arguments:
texts, characters and numbers, with a least width and a precision. A format is used
again as long as arguments are left.
-/

import ModuleBundler.Shell.FloatingPoint
import ModuleBundler.Shell.Process

namespace ModuleBundler.Shell.Format

/-! ## Escapes -/

/-- The character of a plain escape. -/
def escape? (c : Char) : Option Char :=
  match c with
  | '\\' => some '\\'
  | 'a' => some '\x07'
  | 'b' => some '\x08'
  | 'f' => some '\x0c'
  | 'n' => some '\n'
  | 'r' => some '\r'
  | 't' => some '\t'
  | 'v' => some '\x0b'
  | _ => none

/-- The character of an escape in a text or a format. -/
def textEscape? (c : Char) : Option Char :=
  if c = 'e' then some '\x1b' else escape? c

/-- Whether a character is an octal digit. -/
def isOctal (c : Char) : Bool :=
  '0' ≤ c && c ≤ '7'

/-- The byte that octal digits write. -/
def octal (digits : List Char) : UInt8 :=
  (digits.foldl (fun n c => n * 8 + (c.toNat - '0'.toNat)) 0).toUInt8

/-- The bytes of a text. -/
def bytesOf (text : List Char) : Bytes :=
  text.flatMap Text.octetsOf

/-- The bytes of a text with escapes, and whether `\c` ends everything. In a text that
is put out, octal escapes begin with a zero of their own. The number bounds the
characters. -/
def unescaped (inText : Bool) : Nat → List Char → Bytes × Bool
  | 0, _ => ([], false)
  | _ + 1, [] => ([], false)
  | n + 1, '\\' :: c :: rest =>
    let behind (front : Bytes) (rest : List Char) : Bytes × Bool :=
      let (bytes, ended) := unescaped inText n rest
      (front ++ bytes, ended)
    if inText && c = 'c' then ([], true)
    else if inText && c = '0' then
      let digits := (rest.take 3).takeWhile isOctal
      behind [octal digits] (rest.drop digits.length)
    else if isOctal c then
      let digits := ((c :: rest).take 3).takeWhile isOctal
      behind [octal digits] ((c :: rest).drop digits.length)
    else match textEscape? c with
      | some d => behind (bytesOf [d]) rest
      | none => behind (bytesOf ['\\', c]) rest
  | n + 1, c :: rest =>
    let (bytes, ended) := unescaped inText n rest
    (bytesOf [c] ++ bytes, ended)

/-- The bytes of a text that is put out with its escapes. -/
def textBytes (text : String) : Bytes × Bool :=
  unescaped true (text.length + 1) text.toList

/-- What `echo` writes of its arguments. -/
def echoed (arguments : List String) : Bytes :=
  let (newline, texts) := match arguments with
    | "-n" :: rest => (false, rest)
    | texts => (true, texts)
  let (bytes, ended) := textBytes (" ".intercalate texts)
  bytes ++ (if newline && !ended then [0x0A] else [])

/-! ## Formats -/

/-- How an argument is written. -/
structure Directive where
  flags : List Char := []
  width : Nat := 0
  precision : Option Nat := none
  /-- The text of the directive, for messages. -/
  text : List Char := []

/-- Fills bytes up to the width. -/
def Directive.filled (d : Directive) (bytes : Bytes) : Bytes :=
  let gap := List.replicate (d.width - bytes.length) (0x20 : UInt8)
  if d.flags.contains '-' then bytes ++ gap else gap ++ bytes

/-- The digits of a number in a base. -/
def digitsOf (base : Nat) (upper : Bool) (n : Nat) : List Char :=
  let digits := Nat.toDigits base n
  if upper then digits.map Char.toUpper else digits

/-- A number with the sign in front of it, filled up to the width; with zeros if these
may be. -/
def Directive.signed (d : Directive) (mayFill : Bool) (sign digits : List Char) : Bytes :=
  let zeros := if mayFill && d.flags.contains '0' && !d.flags.contains '-'
    then d.width - sign.length - digits.length else 0
  d.filled (bytesOf (sign ++ List.replicate zeros '0' ++ digits))

/-- A whole number with the sign in front of it; the precision is its least number of
digits, and zero has none of its own then. -/
def Directive.whole (d : Directive) (sign digits : List Char) : Bytes :=
  match d.precision with
  | some least =>
    let digits := if digits = ['0'] then [] else digits
    d.signed false sign (List.replicate (least - digits.length) '0' ++ digits)
  | none => d.signed true sign digits

/-- An octal number, which begins with a zero if that is asked for. -/
def Directive.octal (d : Directive) (digits : List Char) : Bytes :=
  if !d.flags.contains '#' then d.whole [] digits
  else
    let digits := if digits = ['0'] then digits else '0' :: digits
    match d.precision with
    | some least => d.signed false [] (List.replicate (least - digits.length) '0' ++ digits)
    | none => d.signed true [] digits

/-- The sign of a number. -/
def Directive.sign (d : Directive) (isNegative : Bool) : List Char :=
  if isNegative then ['-'] else if d.flags.contains '+' then ['+']
  else if d.flags.contains ' ' then [' '] else []

/-- What is wrong with an argument that should be a number. -/
inductive Complaint where
  | noNumber (text : String)
  | textBehind (text : String)
  | outOfRange (text : String)
  deriving DecidableEq, Repr

/-- Why a format cannot be used. -/
inductive Fault where
  | invalid (directive : String)
  /-- A directive without its last character. -/
  | unfinished (directive : String)
  deriving DecidableEq, Repr

/-- How far a format has got. -/
structure Progress where
  output : Bytes := []
  arguments : List String
  /-- The numbers with fractions. -/
  numbers : BinaryFormat := .double
  /-- What was wrong with arguments. -/
  complaints : List Complaint := []
  /-- Whether everything was ended. -/
  ended : Bool := false
  fault : Option Fault := none

namespace Progress

/-- Adds bytes. -/
def add (p : Progress) (bytes : Bytes) : Progress :=
  { p with output := p.output ++ bytes }

/-- The next argument, if one is left. -/
def next (p : Progress) : Option String × Progress :=
  (p.arguments.head?, { p with arguments := p.arguments.drop 1 })

/-- Complains about a number that has something behind it, or is out of range. -/
def complainIf (p : Progress) (text : String) (behind : List Char) (isOut : Bool) : Progress :=
  let complaint :=
    if !behind.isEmpty then [.textBehind text] else if isOut then [.outOfRange text] else []
  { p with complaints := p.complaints ++ complaint }

/-- The whole number of the next argument, which is 0 if none is left. Numbers are
kept between the given bounds. -/
def nextNumber (p : Progress) (least greatest : Int) : Int × Progress :=
  match p.next with
  | (none, p) => (0, p)
  | (some text, p) =>
    match text.toList with
    | quote :: rest =>
      if quote = '"' || quote = '\'' then
        (((bytesOf rest).headD 0).toNat, p)
      else
        let chars := text.toList.dropWhile Arithmetic.isBlank
        let negative := chars.head? = some '-'
        let body := if negative || chars.head? = some '+' then chars.drop 1 else chars
        if body.head?.any Char.isDigit then
          let (n, rest) := Arithmetic.unsigned body
          let value : Int := if negative then -(n : Int) else n
          (max least (min greatest value),
            p.complainIf text rest (value < least || greatest < value))
        else (0, { p with complaints := p.complaints ++ [.noNumber text] })
    | [] => (0, p)

/-- The number with a fraction of the next argument. -/
def nextFloatingPoint (p : Progress) : FloatingPoint × Progress :=
  match p.next with
  | (none, p) => ({}, p)
  | (some text, p) =>
    match text.toList with
    | quote :: rest =>
      if quote = '"' || quote = '\'' then
        ({ magnitude := .finite ((bytesOf rest).headD 0).toNat 0 }, p)
      else match FloatingPoint.ofText? p.numbers text.toList with
        | some (x, outOfRange, rest) => (x, p.complainIf text rest outOfRange)
        | none => ({}, { p with complaints := p.complaints ++ [.noNumber text] })
    | [] => ({}, p)

end Progress

/-- Writes the next argument by a directive that ends in a character. -/
def Directive.write (d : Directive) (kind : Char) (p : Progress) : Progress :=
  let signed : Progress :=
    let (n, p) := p.nextNumber Int64.minValue.toInt Int64.maxValue.toInt
    p.add (d.whole (d.sign (n < 0)) (digitsOf 10 false n.natAbs))
  let unsigned (base : Nat) (mark : List Char) (upper : Bool) : Progress :=
    let (n, p) := p.nextNumber (1 - UInt64.size) (UInt64.size - 1)
    let n := (n % UInt64.size).toNat
    let mark := if d.flags.contains '#' && n ≠ 0 then mark else []
    p.add (d.whole mark (digitsOf base upper n))
  let fractional : Progress :=
    let (x, p) := p.nextFloatingPoint
    let (mark, digits) :=
      x.magnitude.text p.numbers kind.toLower d.precision (d.flags.contains '#')
    let cased (text : List Char) := if kind.isUpper then text.map Char.toUpper else text
    p.add (d.signed x.magnitude.isFinite (d.sign x.isNegative ++ cased mark) (cased digits))
  let cut (bytes : Bytes) : Bytes :=
    match d.precision with
    | some most => bytes.take most
    | none => bytes
  match kind with
  | 'd' => signed
  | 'i' => signed
  | 'u' => unsigned 10 [] false
  | 'o' =>
    let (n, p) := p.nextNumber (1 - UInt64.size) (UInt64.size - 1)
    p.add (d.octal (digitsOf 8 false (n % UInt64.size).toNat))
  | 'x' => unsigned 16 ['0', 'x'] false
  | 'X' => unsigned 16 ['0', 'X'] true
  | 'c' =>
    let (text, p) := p.next
    p.add (d.filled [(Text.toOctets (text.getD "")).headD 0])
  | 's' =>
    let (text, p) := p.next
    p.add (d.filled (cut (Text.toOctets (text.getD ""))))
  | 'b' =>
    let (text, p) := p.next
    let (bytes, ended) := textBytes (text.getD "")
    { p.add (d.filled (cut bytes)) with ended := ended }
  | c =>
    if ['a', 'e', 'f', 'g'].contains c.toLower then fractional
    else { p with fault := some (.invalid (String.ofList (d.text ++ [c]))) }

/-- A width or a precision in front of a format's rest: digits, or a star for an
argument. -/
def amount (format : List Char) (p : Progress) : Int × List Char × Progress :=
  match format with
  | '*' :: rest =>
    let (n, p) := p.nextNumber Int32.minValue.toInt Int32.maxValue.toInt
    (n, rest, p)
  | format =>
    let digits := format.takeWhile Char.isDigit
    (((String.ofList digits).toNat?.getD 0 : Nat), format.drop digits.length, p)

/-- Uses a format once. The number bounds its characters. -/
def once : Nat → List Char → Progress → Progress
  | 0, _, p => p
  | _ + 1, [], p => p
  | n + 1, '%' :: '%' :: rest, p => once n rest (p.add [0x25])
  | n + 1, '%' :: rest, p =>
    let flags := rest.takeWhile fun c => ['#', '-', '+', ' ', '0'].contains c
    let (width, behind, p) := amount (rest.drop flags.length) p
    let flags := if width < 0 then '-' :: flags else flags
    let (precision, behind, p) : Option Nat × List Char × Progress :=
      match behind with
      | '.' :: behind =>
        let (k, behind, p) := amount behind p
        (if k < 0 then none else some k.toNat, behind, p)
      | behind => (none, behind, p)
    match behind with
    | [] => { p with fault := some (.unfinished (String.ofList ('%' :: rest))) }
    | kind :: behind =>
      let text := '%' :: rest.take (rest.length - behind.length - 1)
      let p := Directive.write ⟨flags, width.natAbs, precision, text⟩ kind p
      if p.ended || p.fault.isSome then p else once n behind p
  | n + 1, '\\' :: c :: rest, p =>
    let digits := ((c :: rest).take 3).takeWhile isOctal
    if digits.isEmpty then
      once n rest (p.add (match textEscape? c with
        | some d => bytesOf [d]
        | none => bytesOf ['\\', c]))
    else once n ((c :: rest).drop digits.length) (p.add [octal digits])
  | n + 1, c :: rest, p => once n rest (p.add (bytesOf [c]))

/-- Uses a format until no argument is left, or none is taken. -/
def repeatedly (format : List Char) : Nat → Progress → Progress
  | 0, p => p
  | n + 1, p =>
    let after := once (format.length + 1) format p
    if after.ended || after.fault.isSome || after.arguments.isEmpty ||
        after.arguments.length = p.arguments.length then after
    else repeatedly format n after

/-- What a format makes of arguments. -/
def filled (numbers : BinaryFormat) (format : String) (arguments : List String) : Progress :=
  repeatedly format.toList (arguments.length + 1) { arguments := arguments, numbers := numbers }

end ModuleBundler.Shell.Format
