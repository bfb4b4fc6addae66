/-
# ModuleBundler.Toml.Number -- numbers

Integers have 64 bits and a sign, and may be written in base 2, 8 or 16. Digits
may be grouped by single underscores between them. No zero stands in front of
another digit. A float that is too large is refused, unless it is negative.
-/

import ModuleBundler.Toml.DateTime
import ModuleBundler.Toml.Value
import ModuleBundler.Decimal.Shortest

namespace ModuleBundler.Toml

open Reader

/-! ## Digits -/

/-- What has to stand behind an underscore or a point. -/
def digitName : List String := ["digit"]

/-- Reads further digits of a class, grouped by underscores. -/
def moreDigits (p : Char → Bool) : Reader (List Char) :=
  many (orElse (oneOf p) (do char '_'; final (wanting digitName (oneOf p))))

/-- Reads digits of a class, grouped by underscores. -/
def someDigits (p : Char → Bool) : Reader (List Char) := do
  return (← oneOf p) :: (← moreDigits p)

/-- Whether a character is a digit of base 8. -/
def isOctal (c : Char) : Bool := '0' ≤ c && c ≤ '7'

/-- Whether a character is a digit of base 2. -/
def isBinary (c : Char) : Bool := c == '0' || c == '1'

/-- Reads a sign, if there is one, as whether it is a minus. -/
def sign : Reader Bool := do
  return (← maybe (oneOf fun c => c == '+' || c == '-')) == some '-'

/-- Reads a whole number in base 10: whether it has a minus, and its digits. -/
def decimalDigits : Reader (Bool × List Char) :=
  named "integer" do
    let negative ← sign
    let ds ← orElse
      (do return (← oneOf fun c => c.isDigit && c != '0') :: (← moreDigits Char.isDigit))
      (List.singleton <$> oneOf Char.isDigit)
    return (negative, ds)

/-! ## Integers -/

/-- The distance from zero that integers of 64 bits reach below it, and not above. -/
def signLimit : Nat := Nat.pow 2 63

/-- An integer of 64 bits. -/
def bounded (negative : Bool) (magnitude : Nat) : Except String Int :=
  if negative then
    if magnitude ≤ signLimit then .ok (-magnitude) else .error "number too small to fit in target type"
  else if magnitude < signLimit then .ok magnitude
  else .error "number too large to fit in target type"

/-- Reads an integer. -/
def readInteger : Reader Int := do
  match ← get with
  | '0' :: 'x' :: _ => based 'x' "hexadecimal integer" 16 isHex
  | '0' :: 'o' :: _ => based 'o' "octal integer" 8 isOctal
  | '0' :: 'b' :: _ => based 'b' "binary integer" 2 isBinary
  | _ => do
    let start ← get
    let (negative, ds) ← decimalDigits
    match bounded negative (number 10 ds) with
    | .ok n => return n
    | .error cause => do
      set start
      throw { final := true, cause := some cause }
where
  /-- Reads an integer in another base than ten, which a letter behind a zero tells. -/
  based (letter : Char) (name : String) (base : Nat) (p : Char → Bool) : Reader Int :=
    final (checked (named name (do text ['0', letter]; someDigits p)) fun ds =>
      bounded false (number base ds))

/-! ## Floats -/

/-- Reads the exponent of a float. -/
def readExponent : Reader Int := do
  let _ ← oneOf fun c => c == 'e' || c == 'E'
  let negative ← sign
  let ds ← final (someDigits Char.isDigit)
  return if negative then -(number 10 ds : Int) else number 10 ds

/-- Reads the digits of a float behind its point. -/
def readPlaces : Reader (List Char) := do
  char '.'
  final (wanting digitName (someDigits Char.isDigit))

/-- Reads a float with digits: whether it has a minus, and the number behind it. -/
def floatDigits : Reader (Bool × Decimal) := do
  let (negative, whole) ← decimalDigits
  let (places, exponent) ← orElse
    (do return ([], ← readExponent))
    (do return (← readPlaces, (← maybe readExponent).getD 0))
  return (negative, ⟨number 10 (whole ++ places), exponent - places.length⟩)

/-- A float as it is written: a minus, if it has one, and its magnitude. -/
def floatText (negative : Bool) (magnitude : String) : String :=
  if negative then "-" ++ magnitude else magnitude

/-- Reads infinity. -/
def readInfinity : Reader String := do
  text "inf".toList
  return "inf"

/-- Reads what is no number. -/
def readNaN : Reader String := do
  text "nan".toList
  return "NaN"

/-- Reads a float: its shortest text in positional notation. -/
def readFloat : Reader String :=
  named "floating-point number" (orElse digital special)
where
  /-- Reads a float with digits. -/
  digital : Reader String := do
    let start ← get
    let (negative, d) ← floatDigits
    match d.nearest? with
    | some units => return floatText negative (Decimal.shortest units).positional
    | none =>
      if negative then return floatText negative "inf"
      else do
        set start
        throw { final := true }
  /-- Reads a float without digits. -/
  special : Reader String := do
    let negative ← sign
    orElse (floatText negative <$> readInfinity) readNaN

/-! ## Numbers, dates and times -/

/-- Reads a number, a date or a time. -/
def readNumber : Reader Value :=
  orElse (.dateTime <$> readDateTime) (orElse (.float <$> readFloat) (.integer <$> readInteger))

end ModuleBundler.Toml
