/-
# ModuleBundler.Decimal.Shortest -- decimal numbers and binary floats

A binary float of 64 bits that is not negative is a whole number of units of
`2 ^ -1074`, with at most 53 binary digits in front of its zeros. A decimal number
is read as the float that is nearest to it, and as the even one of two. A float is
written with the fewest digits that are read as that float, and of those numbers
as the nearest.

All of this is whole number arithmetic: fractions are compared by products.
-/

namespace ModuleBundler

/-- The decimal number `digits * 10 ^ exponent`. -/
structure Decimal where
  digits : Nat
  exponent : Int
  deriving DecidableEq, Repr

namespace Decimal

/-! ## Reading -/

/-- A power of two. -/
def twoTo (n : Nat) : Nat := Nat.pow 2 n

/-- A power of ten. -/
def tenTo (n : Nat) : Nat := Nat.pow 10 n

/-- The number of units in one. -/
def one : Nat := twoTo 1074

/-- The least number of units that is too large for a float. -/
def limit : Nat := twoTo 1024 * one

/-- The distance from a float to the next larger one, in units. -/
def spacing (units : Nat) : Nat := twoTo (units.log2 - 52)

/-- A quotient, rounded to the nearest whole number, and to the even one of two. -/
def roundDiv (n d : Nat) : Nat :=
  let q := n / d
  let twice := 2 * (n % d)
  if twice < d then q
  else if d < twice then q + 1
  else if q % 2 = 0 then q else q + 1

/-- The float that is nearest to a number, in units; numbers from `10 ^ 310` on are
too large for one, and those below `10 ^ -330` are read as zero. -/
def nearest? (d : Decimal) : Option Nat :=
  let size := (Nat.toDigits 10 d.digits).length + d.exponent
  if d.digits = 0 || size < -330 then some 0
  else if 310 < size then none
  else
    let n := d.digits * tenTo d.exponent.toNat * one
    let m := tenTo (-d.exponent).toNat
    let step := spacing (n / m)
    let units := roundDiv n (m * step) * step
    if units < limit then some units else none

/-! ## Writing -/

/-- The exponent of the first digit of a float, in decimal notation. -/
def leading (units : Nat) : Int :=
  ((Nat.toDigits 10 (units * tenTo 400 / one)).length : Int) - 401

/-- Whether a decimal number is read as a float, where both are positive. -/
def reads (units : Nat) (d : Decimal) : Bool :=
  let step := spacing units
  let below := if units = twoTo units.log2 && 1 < step then step / 2 else step
  let even := units / step % 2 = 0
  let value := 2 * (d.digits * tenTo d.exponent.toNat * one)
  let scale := tenTo (-d.exponent).toNat
  let low := (2 * units - below) * scale
  let high := (2 * units + step) * scale
  if even then low ≤ value && value ≤ high else low < value && value < high

/-- The number nearest to a float of those with so many digits that are read as
that float, if there is one. -/
def withDigits? (units count : Nat) : Option Decimal :=
  let e := leading units + 1 - count
  let n := units * tenTo (-e).toNat
  let m := one * tenTo e.toNat
  let lower : Decimal := ⟨n / m, e⟩
  let upper : Decimal := ⟨n / m + 1, e⟩
  let nearer := if 2 * (n % m) < m then [lower, upper] else [upper, lower]
  nearer.find? (reads units)

/-- The number with the fewest digits that is read as a float. Seventeen digits
are always enough. -/
def shortest (units : Nat) : Decimal :=
  if units = 0 then ⟨0, 0⟩
  else (((List.range 17).findSome? fun n => withDigits? units (n + 1))).getD ⟨0, 0⟩

/-- A number in positional notation: at least one digit stands on either side of
the point, and no zero that could be left out. -/
def positional (d : Decimal) : String :=
  let digits := Nat.toDigits 10 d.digits
  match d.exponent with
  | .ofNat e =>
    let zeros := if d.digits = 0 then 0 else e
    String.ofList (digits ++ List.replicate zeros '0' ++ ['.', '0'])
  | .negSucc e =>
    let places := e + 1
    let padded := List.replicate (places + 1 - digits.length) '0' ++ digits
    let whole := padded.take (padded.length - places)
    let fraction := ((padded.drop (padded.length - places)).reverse.dropWhile (· == '0')).reverse
    String.ofList (whole ++ '.' :: (if fraction.isEmpty then ['0'] else fraction))

end Decimal

end ModuleBundler
