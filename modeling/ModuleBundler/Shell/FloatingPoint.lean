/-
# ModuleBundler.Shell.FloatingPoint -- numbers with fractions in formats

A format reads numbers with fractions, in decimal or in hexadecimal notation, as the
nearest number of a binary format (`FloatingPoint.ofText?`), and writes them with a number of
places (`f`), with a power of ten (`e`), in the shorter of both ways (`g`), or in
hexadecimal notation (`a`). What is written is the exact number, rounded once.
-/

import ModuleBundler.Decimal.Rounding
import ModuleBundler.Shell.Arithmetic

namespace ModuleBundler.Shell

/-- A binary format: numbers are whole multiples of powers of two. -/
structure BinaryFormat where
  /-- The greatest number of binary digits of a multiple. -/
  digits : Nat
  /-- The least exponent. -/
  least : Int
  /-- Numbers below two to this exponent are kept. -/
  limit : Int
  /-- The binary digits in front of the point of a hexadecimal number. -/
  leading : Nat
  deriving DecidableEq, Repr

namespace BinaryFormat

/-- Numbers of 64 bits. -/
def double : BinaryFormat := ⟨53, -1074, 1024, 1⟩

/-- Numbers of 80 bits. -/
def extended : BinaryFormat := ⟨64, -16445, 16384, 4⟩

end BinaryFormat

/-- A number without its sign. -/
inductive Magnitude where
  /-- `multiple * 2 ^ exponent`. -/
  | finite (multiple : Nat) (exponent : Int)
  | infinite
  | undefined
  deriving DecidableEq, Repr

/-- A number with its sign, which zero and what is no number have, too. -/
structure FloatingPoint where
  isNegative : Bool := false
  magnitude : Magnitude := .finite 0 0
  deriving DecidableEq, Repr

namespace BinaryFormat

/-- The multiple of `2 ^ exponent` that is nearest to a positive fraction, where the
exponent leaves it as many digits as there may be, but is at least `least`. -/
def rounded (format : BinaryFormat) (least : Int) (f : Fraction) : Nat × Int :=
  let exponent := max least (f.log2 + 1 - format.digits)
  (f.nearest 2 (-exponent), exponent)

/-- The number that is nearest to a fraction, and whether it is out of range: too large,
or so small that digits are lost. -/
def nearest (format : BinaryFormat) (f : Fraction) : Magnitude × Bool :=
  if f.numerator = 0 then (.finite 0 0, false)
  else
    let (multiple, exponent) := format.rounded format.least f
    if multiple ≠ 0 && format.limit ≤ (multiple.log2 : Int) + exponent then (.infinite, true)
    else
      /- The number with as many digits as there may be, however small it is. -/
      let (free, freeExponent) := format.rounded (f.log2 + 1 - format.digits) f
      let isTiny := (free.log2 : Int) + freeExponent < format.least + format.digits - 1
      let written := Fraction.scaled multiple 2 exponent
      let isExact := written.numerator * f.denominator = f.numerator * written.denominator
      (.finite multiple exponent, isTiny && !isExact)

end BinaryFormat

/-! ## Reading -/

/-- A number as it is written, without its sign. -/
inductive Numeral where
  | decimal (digits : Nat) (exponent : Int)
  | binary (digits : Nat) (exponent : Int)
  | infinite
  | undefined
  deriving DecidableEq, Repr

namespace Numeral

/-- Whether a text begins with a word, in any case of letters. -/
def startsWith (word : String) (text : List Char) : Bool :=
  (text.take word.length).map Char.toLower == word.toList

/-- Whether a character is a digit in a base up to 16. -/
def isDigit (base : Nat) (c : Char) : Bool :=
  (Arithmetic.digitValue? base c).isSome

/-- The value of digits in a base. -/
def value (base : Nat) (digits : List Char) : Nat :=
  digits.foldl (fun n c => n * base + (Arithmetic.digitValue? base c).getD 0) 0

/-- Reads an exponent behind its letter, if there is one with digits: its value, and
what stands behind it. -/
def exponent (letter : Char) (text : List Char) : Int × List Char :=
  match text with
  | c :: rest =>
    let isNegative := rest.head? = some '-'
    let body := if isNegative || rest.head? = some '+' then rest.drop 1 else rest
    let digits := body.takeWhile Char.isDigit
    if c.toLower ≠ letter || digits.isEmpty then (0, text)
    else
      let n : Int := (value 10 digits : Nat)
      (if isNegative then -n else n, body.drop digits.length)
  | [] => (0, [])

/-- Reads digits with or without a point among them: their value, how many stand behind
the point, and what stands behind them all. -/
def digits? (base : Nat) (text : List Char) : Option (Nat × Nat × List Char) :=
  let whole := text.takeWhile (isDigit base)
  let rest := text.drop whole.length
  let places := if rest.head? = some '.' then (rest.drop 1).takeWhile (isDigit base) else []
  if whole.isEmpty && places.isEmpty then none
  else
    let rest := if rest.head? = some '.' then rest.drop (1 + places.length) else rest
    some (value base (whole ++ places), places.length, rest)

/-- Reads a number at the front of a text, and gives what stands behind it. -/
def read? (text : List Char) : Option (Numeral × List Char) :=
  let decimal := (digits? 10 text).map fun (n, places, rest) =>
    let (e, rest) := exponent 'e' rest
    (Numeral.decimal n (e - places), rest)
  if startsWith "infinity" text then some (.infinite, text.drop 8)
  else if startsWith "inf" text then some (.infinite, text.drop 3)
  else if startsWith "nan" text then
    let behind := text.drop 3
    let inside := (behind.drop 1).takeWhile fun c => c.isAlphanum || c = '_'
    let closed := behind.head? = some '(' && (behind.drop (1 + inside.length)).head? = some ')'
    some (.undefined, if closed then behind.drop (inside.length + 2) else behind)
  else if startsWith "0x" text then
    match digits? 16 (text.drop 2) with
    | some (n, places, rest) =>
      let (e, rest) := exponent 'p' rest
      some (.binary n (e - 4 * places), rest)
    | none => decimal
  else decimal

/-- The number of a format that a numeral stands for, and whether that is out of range.
Numbers far from all that a format keeps are not computed. -/
def nearest (format : BinaryFormat) : Numeral → Magnitude × Bool
  | infinite => (.infinite, false)
  | undefined => (.undefined, false)
  | decimal n e =>
    let size := (Fraction.digitCount n : Int) + e
    if n = 0 then (.finite 0 0, false)
    else if 6000 < size then (.infinite, true)
    else if size < -6000 then (.finite 0 0, true)
    else format.nearest (Fraction.scaled n 10 e)
  | binary n e =>
    let size := (n.log2 : Int) + e
    if n = 0 then (.finite 0 0, false)
    else if 20000 < size then (.infinite, true)
    else if size < -20000 then (.finite 0 0, true)
    else format.nearest (Fraction.scaled n 2 e)

end Numeral

namespace FloatingPoint

/-- The number in front of a text: whether it is out of range, and what stands behind it. -/
def ofText? (format : BinaryFormat) (text : List Char) : Option (FloatingPoint × Bool × List Char) :=
  let text := text.dropWhile Arithmetic.isBlank
  let isNegative := text.head? = some '-'
  let body := if isNegative || text.head? = some '+' then text.drop 1 else text
  (Numeral.read? body).map fun (numeral, rest) =>
    let (magnitude, outOfRange) := numeral.nearest format
    (⟨isNegative, magnitude⟩, outOfRange, rest)

end FloatingPoint

/-! ## Writing -/

namespace Magnitude

/-- Whether a number is finite. -/
def isFinite : Magnitude → Bool
  | finite _ _ => true
  | _ => false

/-- An exponent with its sign, and at least so many digits. -/
def exponentText (least : Nat) (exponent : Int) : List Char :=
  (if exponent < 0 then '-' else '+') :: Fraction.padded least exponent.natAbs

/-- Digits on both sides of a point, which is left out if nothing stands behind it
unless it is to be kept. -/
def pointed (keepsPoint : Bool) (whole places : List Char) : List Char :=
  if places.isEmpty && !keepsPoint then whole else whole ++ '.' :: places

/-- Digits without the zeros at their end. -/
def withoutZeros (digits : List Char) : List Char :=
  (digits.reverse.dropWhile (· == '0')).reverse

/-- A fraction with a number of places. -/
def fixedText (f : Fraction) (places : Nat) (keepsPoint : Bool) : List Char :=
  let (whole, places) := f.fixed places
  pointed keepsPoint whole places

/-- A fraction with a power of ten. -/
def scientificText (f : Fraction) (places : Nat) (keepsPoint : Bool) : List Char :=
  let (whole, places, exponent) := f.scientific places
  pointed keepsPoint whole places ++ 'e' :: exponentText 2 exponent

/-- A fraction with so many digits, in the shorter way. One that only rounding makes too
great for the way without an exponent is written without places. -/
def generalText (f : Fraction) (count : Nat) (keepsZeros : Bool) : List Char :=
  let count := max 1 count
  let (_, exponent) := f.significant count
  let kept (digits : List Char) := if keepsZeros then digits else withoutZeros digits
  if -4 ≤ exponent && exponent < count then
    let (whole, places) := f.fixed (count - 1 - exponent).toNat
    pointed keepsZeros whole (kept places)
  else
    let (whole, places, exponent) := f.scientific (count - 1)
    let places := if exponent = count && f.log10 < count then [] else kept places
    pointed keepsZeros whole places ++ 'e' :: exponentText 2 exponent

/-- A number in hexadecimal notation, without the mark in front of it. -/
def hexadecimalText (format : BinaryFormat) (multiple : Nat) (exponent : Int)
    (places : Option Nat) (keepsPoint : Bool) : List Char :=
  let count := (format.digits - format.leading) / 4
  let base := max format.least ((multiple.log2 : Int) + exponent + 1 - format.digits)
  let n := (Fraction.scaled multiple 2 exponent).nearest 2 (-base)
  let wanted := places.getD count
  let digits := Nat.toDigits 16 (Fraction.nearest ⟨n, 1⟩ 16 ((wanted : Int) - count))
  let digits := List.replicate (wanted + 1 - digits.length) '0' ++ digits
  let whole := digits.take (digits.length - wanted)
  let behind := digits.drop (digits.length - wanted)
  let behind := if places.isSome then behind else withoutZeros behind
  let exponent : Int := if multiple = 0 then 0 else base + 4 * count
  let (whole, exponent) := if whole.length = 2 then (['1'], exponent + 4) else (whole, exponent)
  pointed keepsPoint whole behind ++ 'p' :: exponentText 1 exponent

/-- A number by the letter of its directive: a mark that stands in front of zeros which
fill it up, and the text behind. -/
def text (format : BinaryFormat) (kind : Char) (precision : Option Nat) (alternate : Bool) :
    Magnitude → List Char × List Char
  | infinite => ([], ['i', 'n', 'f'])
  | undefined => ([], ['n', 'a', 'n'])
  | finite multiple exponent =>
    let f := Fraction.scaled multiple 2 exponent
    let digits := precision.getD 6
    match kind with
    | 'f' => ([], fixedText f digits alternate)
    | 'e' => ([], scientificText f digits alternate)
    | 'g' => ([], generalText f digits alternate)
    | _ => (['0', 'x'], hexadecimalText format multiple exponent precision alternate)

end Magnitude

end ModuleBundler.Shell
