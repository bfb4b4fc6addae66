/-
# ModuleBundler.Toml.DateTime -- dates and times

A date has a day that its month has; a time has seconds, and keeps nine places of
a second, without rounding. Either may stand alone, and both together may be seen
from a time zone.
-/

import ModuleBundler.Toml.Text

namespace ModuleBundler.Toml

open Reader

/-- A day of a year. -/
structure Date where
  year : Nat
  month : Nat
  day : Nat
  deriving DecidableEq, Repr

/-- A time of day. -/
structure Time where
  hour : Nat
  minute : Nat
  second : Nat
  nanosecond : Nat
  deriving DecidableEq, Repr

/-- How far a clock is ahead of universal time. -/
inductive Zone where
  | universal
  | ahead (minutes : Int)
  deriving DecidableEq, Repr

/-- A date, a time, or both. -/
structure DateTime where
  date : Option Date := none
  time : Option Time := none
  zone : Option Zone := none
  deriving DecidableEq, Repr

/-! ## Writing -/

/-- A number with zeros in front, to so many digits. -/
def padded (width n : Nat) : List Char :=
  let digits := Nat.toDigits 10 n
  List.replicate (width - digits.length) '0' ++ digits

/-- A date as it is written. -/
def Date.text (d : Date) : List Char :=
  padded 4 d.year ++ '-' :: padded 2 d.month ++ '-' :: padded 2 d.day

/-- A time as it is written; zeros at the end of a fraction are left out. -/
def Time.text (t : Time) : List Char :=
  padded 2 t.hour ++ ':' :: padded 2 t.minute ++ ':' :: padded 2 t.second ++
    (if t.nanosecond = 0 then []
    else '.' :: ((padded 9 t.nanosecond).reverse.dropWhile (· == '0')).reverse)

/-- A time zone as it is written. -/
def Zone.text : Zone → List Char
  | universal => ['Z']
  | ahead minutes =>
    let n := minutes.natAbs
    (if minutes < 0 then '-' else '+') :: padded 2 (n / 60) ++ ':' :: padded 2 (n % 60)

/-- A date, a time, or both as they are written. -/
def DateTime.text (d : DateTime) : String :=
  let clock := (d.time.map Time.text).getD []
  String.ofList (
    (d.date.map Date.text).getD [] ++
    (if d.date.isSome && d.time.isSome then ['T'] else []) ++ clock ++
    (d.zone.map Zone.text).getD [])

/-! ## Reading -/

/-- Reads a number of so many digits. -/
def digits (count : Nat) : Reader Nat := do
  let rest ← get
  let ds := rest.take count
  if ds.length = count && ds.all Char.isDigit then
    set (rest.drop count)
    return number 10 ds
  else refuse

/-- Reads a number of two digits within bounds. -/
def between (low high : Nat) : Reader Nat :=
  checked (digits 2) fun n => if low ≤ n && n ≤ high then .ok n else .error outOfRange

/-- The number of days of a month. -/
def daysOf (year month : Nat) : Nat :=
  if month = 2 then
    if year % 4 = 0 && (year % 100 ≠ 0 || year % 400 = 0) then 29 else 28
  else if month = 4 || month = 6 || month = 9 || month = 11 then 30
  else 31

/-- Reads a date. -/
def readDate : Reader Date := do
  let year ← digits 4
  char '-'
  final do
    let month ← between 1 12
    char '-'
    let day ← checked (between 1 31) fun day =>
      if day ≤ daysOf year month then .ok day else .error outOfRange
    return ⟨year, month, day⟩

/-- Reads the fraction of a second, in nanoseconds. -/
def readFraction : Reader Nat := do
  char '.'
  let ds := (← run1 Char.isDigit).take 9
  return number 10 ds * Nat.pow 10 (9 - ds.length)

/-- Reads a time of day. -/
def readTime : Reader Time := do
  let hour ← between 0 23
  char ':'
  final do
    let minute ← between 0 59
    char ':'
    let second ← between 0 60
    let nanosecond ← maybe readFraction
    return ⟨hour, minute, second, nanosecond.getD 0⟩

/-- Reads a time zone. -/
def readZone : Reader Zone :=
  named "time offset" (orElse
    (do
      let _ ← oneOf fun c => c == 'Z' || c == 'z'
      return .universal)
    (do
      let sign ← oneOf fun c => c == '+' || c == '-'
      final do
        let hours ← between 0 23
        char ':'
        let minutes ← between 0 59
        let n : Int := hours * 60 + minutes
        return .ahead (if sign = '-' then -n else n)))

/-- Reads a date, a time, or both with a `T` or a blank between them. -/
def readDateTime : Reader DateTime :=
  orElse
    (named "date-time" do
      let date ← readDate
      let clock ← maybe (do
        let _ ← oneOf fun c => c == 'T' || c == 't' || c == ' '
        return (← readTime, ← maybe readZone))
      return ⟨some date, clock.map Prod.fst, clock.bind Prod.snd⟩)
    (named "time" do return { time := some (← readTime) })

end ModuleBundler.Toml
