/-
# ModuleBundler.Report -- what the operator reads

One line for each bundle that was written, and one for each target of a listing.
In a listing, the columns start at the same place in every line: names are filled
up to the byte length of the longest one, which no name exceeds in characters.
-/

import ModuleBundler.Compile

namespace ModuleBundler.Report

/-- The line for a bundle that was written. -/
def compiledLine (c : Compiled) : String :=
  c.target ++ ": " ++ Nat.repr c.modules ++ " modules compiled. (" ++ Nat.repr c.files ++
    " files -> " ++ c.output.text ++ ")\n"

/-- One line for each bundle that was written. -/
def compiled (results : List Compiled) : String :=
  String.join (results.map compiledLine)

/-- A text filled up with spaces to a number of characters. -/
def fill (width : Nat) (text : String) : String :=
  text.pushn ' ' (width - text.length)

/-- The width of the column of names. -/
def nameWidth (targets : List Target) : Nat :=
  targets.foldl (fun width t => max width t.name.utf8ByteSize) 0

/-- How a target is bundled, in one word. -/
def mode (b : BundleSection) (t : Target) : String :=
  if (t.options b).concatenateOnly then "concatenate" else "modules"

/-- The line for a target, its name in a column of the given width. -/
def targetLine (b : BundleSection) (width : Nat) (t : Target) : String :=
  fill width t.name ++ "  " ++ fill 11 (mode b t) ++ "  " ++
    (t.dest.map Path.text).getD "(no dest)" ++ "\n"

/-- One line for each target. -/
def targets (b : BundleSection) (ts : List Target) : String :=
  String.join (ts.map (targetLine b (nameWidth ts)))

end ModuleBundler.Report
