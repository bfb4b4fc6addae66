/-
# ModuleBundler.Shell.OptionScan -- the options of a script, one at a time

A script reads its options one by one. Several letters may stand behind one dash, so
the place that was come to is an argument and a place in it. A letter with a colon
behind it in the list of letters takes a value: the rest of its argument, or the next
one.
-/

import ModuleBundler.Text.Search

namespace ModuleBundler.Shell

/-- How far options were read. -/
structure ScanPlace where
  /-- The number of the argument that comes next; the first one has the number 1. -/
  index : Nat := 1
  /-- The letters that are left of the argument in front of it. -/
  letters : List Char := []
  deriving DecidableEq, Repr

/-- What is found at a place. -/
inductive ScanResult where
  | option (letter : Char) (value : String)
  | unknown (letter : Char)
  /-- An option whose value is missing. -/
  | lacking (letter : Char)
  | ended
  deriving DecidableEq, Repr

namespace ScanPlace

/-- Whether a letter is that of an option, and whether it takes a value. -/
def takesValue? (letters : List Char) (c : Char) : Option Bool :=
  match letters with
  | [] => none
  | d :: rest =>
    let isTaking := rest.head? = some ':'
    if d = c then some isTaking
    else takesValue? (if isTaking then rest.drop 1 else rest) c
termination_by letters.length
decreasing_by
  simp only [List.length_cons]
  split
  · simp only [List.length_drop]
    omega
  · omega

/-- Reads a letter, given those behind it in its argument and the number of the next
argument. -/
def readLetter (letters : List Char) (arguments : List String) (index : Nat) (c : Char)
    (rest : List Char) : ScanResult × ScanPlace :=
  match takesValue? letters c with
  | none => (.unknown c, ⟨index, rest⟩)
  | some false => (.option c "", ⟨index, rest⟩)
  | some true =>
    if !rest.isEmpty then (.option c (String.ofList rest), ⟨index, []⟩)
    else match arguments[index - 1]? with
      | some value => (.option c value, ⟨index + 1, []⟩)
      | none => (.lacking c, ⟨index, []⟩)

/-- Reads the next option of arguments. -/
def next (letters : List Char) (arguments : List String) (place : ScanPlace) :
    ScanResult × ScanPlace :=
  match place.letters with
  | c :: rest => readLetter letters arguments place.index c rest
  | [] =>
    match (arguments[place.index - 1]?).map String.toList with
    | some ['-', '-'] => (.ended, ⟨place.index + 1, []⟩)
    | some ('-' :: c :: rest) => readLetter letters arguments (place.index + 1) c rest
    | _ => (.ended, ⟨place.index, []⟩)

end ScanPlace

end ModuleBundler.Shell
