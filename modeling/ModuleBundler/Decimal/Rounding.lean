/-
# ModuleBundler.Decimal.Rounding -- fractions in decimal notation

A fraction that is not negative is written with a number of places behind its point
(`fixed`), or with a number of digits from its first one on (`significant`). Both are the
nearest such numbers, and the even one of two: fractions are compared by products, and
nothing is rounded on the way.
-/

import ModuleBundler.Decimal.Shortest

namespace ModuleBundler

/-- The fraction `numerator / denominator`. -/
structure Fraction where
  numerator : Nat
  denominator : Nat
  deriving DecidableEq, Repr

namespace Fraction

/-- The fraction `n * base ^ exponent`. -/
def scaled (n base : Nat) (exponent : Int) : Fraction :=
  ⟨n * Nat.pow base exponent.toNat, Nat.pow base (-exponent).toNat⟩

/-- The whole number that is nearest to a fraction times a power of a base. -/
def nearest (f : Fraction) (base : Nat) (exponent : Int) : Nat :=
  Decimal.roundDiv (f.numerator * Nat.pow base exponent.toNat)
    (f.denominator * Nat.pow base (-exponent).toNat)

/-- The greatest power of two that is not above a positive fraction. -/
def log2 (f : Fraction) : Int :=
  let guess : Int := (f.numerator.log2 : Int) - f.denominator.log2
  if f.denominator * Decimal.twoTo guess.toNat ≤
      f.numerator * Decimal.twoTo (-guess).toNat then guess
  else guess - 1

/-- The number of decimal digits of a whole number. -/
def digitCount (n : Nat) : Nat := (Nat.toDigits 10 n).length

/-- The greatest power of ten that is not above a positive fraction. -/
def log10 (f : Fraction) : Int :=
  if f.denominator ≤ f.numerator then digitCount (f.numerator / f.denominator) - 1
  else
    let count := digitCount (f.denominator / f.numerator)
    if f.denominator ≤ f.numerator * Decimal.tenTo (count - 1) then 1 - count else -count

/-- The first digits of a fraction, as many as are asked for, and the power of ten that
the first of them counts. -/
def significant (f : Fraction) (count : Nat) : Nat × Int :=
  if f.numerator = 0 then (0, 0)
  else
    let leading := f.log10
    let n := f.nearest 10 (count - 1 - leading)
    if n < Decimal.tenTo count then (n, leading) else (n / 10, leading + 1)

/-- The digits of a number, at least so many. -/
def padded (least n : Nat) : List Char :=
  let digits := Nat.toDigits 10 n
  List.replicate (least - digits.length) '0' ++ digits

/-- A fraction with so many places: the digits in front of the point and behind it. -/
def fixed (f : Fraction) (places : Nat) : List Char × List Char :=
  let digits := padded (places + 1) (f.nearest 10 places)
  (digits.take (digits.length - places), digits.drop (digits.length - places))

/-- A fraction with one digit in front of the point and so many behind it, and the power
of ten that this is to be multiplied by. -/
def scientific (f : Fraction) (places : Nat) : List Char × List Char × Int :=
  let (n, exponent) := f.significant (places + 1)
  let digits := padded (places + 1) n
  (digits.take 1, digits.drop 1, exponent)

end Fraction

end ModuleBundler
