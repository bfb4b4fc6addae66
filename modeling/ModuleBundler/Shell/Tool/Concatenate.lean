/-
# ModuleBundler.Shell.Tool.Concatenate -- files one after the other

`cat` writes the bytes of files in order. They may be shown with the numbers of their
lines, with blank lines in a row as one, and with signs for line ends, tabs and what
cannot be printed. A line may go on from one file to the next.

The main statement is `shown_plain`: where nothing is asked for, the bytes are written as
they are.
-/

import ModuleBundler.Shell.Tool.Basic
import ModuleBundler.Shell.Tool.Switch

namespace ModuleBundler.Shell.Tool

/-- How bytes are shown. -/
structure Display where
  numbersLines : Bool := false
  /-- Whether blank lines have no numbers. -/
  passesBlank : Bool := false
  /-- Whether blank lines in a row are shown as one. -/
  squeezes : Bool := false
  marksEnds : Bool := false
  marksTabs : Bool := false
  /-- Whether signs stand for what cannot be printed. -/
  marksUnprintable : Bool := false
  deriving DecidableEq, Repr

/-- How far bytes are shown. -/
structure DisplayState where
  /-- How many lines have numbers. -/
  numbered : Nat := 0
  /-- Within a line nothing; at its front, how many line ends stand before it in a row
  behind the one that ended a line. -/
  blanks : Option Nat := some 0
  /-- Whether a carriage return waits to be shown, which has a sign before a line end. -/
  holdsReturn : Bool := false
  deriving DecidableEq, Repr

namespace Display

/-- The sign of a byte below 128 that cannot be printed, or the byte. -/
def lowSign (b : UInt8) : Bytes :=
  if b < 32 then [0x5E, b + 64] else if b = 127 then [0x5E, 0x3F] else [b]

/-- The sign of a byte, or the byte. -/
def sign (d : Display) (b : UInt8) : Bytes :=
  if b = 9 then (if d.marksTabs then [0x5E, 0x49] else [9])
  else if !d.marksUnprintable then [b]
  else if b < 128 then lowSign b
  else [0x4D, 0x2D] ++ lowSign (b - 128)

/-- The number of the next line, in its column. -/
def number (s : DisplayState) : Bytes :=
  let digits := Nat.repr (s.numbered + 1)
  Text.toOctets ("".pushn ' ' (6 - digits.length) ++ digits ++ "\t")

/-- Shows one more byte. -/
def step (d : Display) (s : DisplayState) (b : UInt8) : DisplayState × Bytes :=
  if b = 0x0A then
    let blanks := s.blanks.elim 0 (min 2 <| · + 1)
    if blanks = 2 && d.squeezes then ({ s with blanks := some blanks }, [])
    else
      let hasNumber := 0 < blanks && d.numbersLines && !d.passesBlank
      let held : Bytes := if !s.holdsReturn then [] else if d.marksEnds then [0x5E, 0x4D] else [13]
      ({ numbered := if hasNumber then s.numbered + 1 else s.numbered
         blanks := some blanks },
        (if hasNumber then number s else []) ++ held ++
          (if d.marksEnds then [0x24] else []) ++ [0x0A])
  else
    let hasNumber := s.blanks.isSome && d.numbersLines
    let holds := b = 13 && d.marksEnds && !d.marksUnprintable
    ({ numbered := if hasNumber then s.numbered + 1 else s.numbered
       blanks := none
       holdsReturn := holds },
      (if s.holdsReturn then [13] else []) ++ (if hasNumber then number s else []) ++
        (if holds then [] else d.sign b))

/-- Shows bytes. -/
def shown (d : Display) (s : DisplayState) : Bytes → DisplayState × Bytes
  | [] => (s, [])
  | b :: rest =>
    let (s, front) := d.step s b
    let (s, behind) := d.shown s rest
    (s, front ++ behind)

/-- The state behind a byte that is shown as it is. -/
private def plainState (s : DisplayState) (b : UInt8) : DisplayState :=
  { s with blanks := if b = 0x0A then some (s.blanks.elim 0 (min 2 <| · + 1)) else none }

private theorem step_plain (s : DisplayState) (b : UInt8) (h : s.holdsReturn = false) :
    step {} s b = (plainState s b, [b]) := by
  obtain ⟨numbered, blanks, holds⟩ := s
  subst h
  by_cases hb : b = 0x0A
  · subst hb; simp [step, plainState]
  · by_cases ht : b = 9
    · subst ht; simp [step, plainState, sign]
    · simp [step, plainState, sign, hb, ht]

theorem shown_plain (s : DisplayState) (bytes : Bytes) (h : s.holdsReturn = false) :
    (shown {} s bytes).2 = bytes := by
  induction bytes generalizing s with
  | nil => rfl
  | cons b rest ih => simp [shown, step_plain s b h, ih (plainState s b) h]

/-- What options ask for. -/
def ofGiven (g : Given) : Display where
  numbersLines := g.has "number" || g.has "nonblank"
  passesBlank := g.has "nonblank"
  squeezes := g.has "squeeze"
  marksEnds := ["ends", "all", "visibleEnds"].any g.has
  marksTabs := ["tabs", "all", "visibleTabs"].any g.has
  marksUnprintable := ["unprintable", "all", "visibleEnds", "visibleTabs"].any g.has

end Display

/-- The options of `cat`. -/
def concatenateSwitches : List Switch :=
  [ { key := "nonblank", letter := some 'b', word := some "number-nonblank" },
    { key := "number", letter := some 'n', word := some "number" },
    { key := "squeeze", letter := some 's', word := some "squeeze-blank" },
    { key := "unprintable", letter := some 'v', word := some "show-nonprinting" },
    { key := "ends", letter := some 'E', word := some "show-ends" },
    { key := "tabs", letter := some 'T', word := some "show-tabs" },
    { key := "all", letter := some 'A', word := some "show-all" },
    { key := "visibleEnds", letter := some 'e' },
    { key := "visibleTabs", letter := some 't' },
    { key := "plain", letter := some 'u' },
    { key := "help", word := some "help" },
    { key := "version", word := some "version" } ]

/-- How far files are written. -/
structure Concatenation where
  effect : Effect
  display : DisplayState := {}
  /-- How many bytes were written. -/
  size : Nat := 0

namespace Concatenation

/-- Writes bytes. -/
def put (s : Concatenation) (bytes : Bytes) : Concatenation :=
  { s with effect := s.effect.put bytes, size := s.size + bytes.length }

/-- Writes what is read at a place. Of a file that the output leads to, nothing is
written that would be read again. -/
def add (s : Concatenation) (c : Call) (d : Display) (name : String)
    (place : Option (Location × Nat)) (bytes : Bytes) : Concatenation :=
  let isBehind := match place, c.outputPlace with
    | some (from_, position), some (to_, end_) => from_ = to_ && position < end_ + s.size
    | _, _ => false
  if isBehind then { s with effect := s.effect.complain c (name ++ ": input file is output file") }
  else
    let (display, shown) := d.shown s.display bytes
    { s with display := display }.put shown

/-- Writes the file of a name, or the input. -/
def addNamed (c : Call) (d : Display) (s : Concatenation) (file : String) : Concatenation :=
  let name := quotedIfNeeded file
  if file = "-" then
    match c.input with
    | .error fault => { s with effect := s.effect.complain c (plainly file fault.reason) }
    | .ok bytes =>
      let isRead := s.effect.readsInput
      let place := c.inputPlace.map fun p => (p.1, if isRead then p.2 + bytes.length else p.2)
      let s := s.add c d name place (if isRead then [] else bytes)
      { s with effect := { s.effect with readsInput := true } }
  else match bytesOf c.tree c.dir file with
    | .error error => { s with effect := s.effect.complain c (plainly file (reason error)) }
    | .ok bytes => s.add c d name ((c.tree.find c.dir ⟨file⟩).toOption.map fun f => (f.1, 0)) bytes

end Concatenation

/-- The bytes of files one after the other. -/
def concatenate : Tool := fun c =>
  let g := Switch.read concatenateSwitches false c.arguments
  if g.has "help" || g.has "version" then c.start
  else match g.fault with
  | some fault => c.misused fault.message
  | none =>
    if !c.hasOutput then c.fails ("standard output: " ++ InputFault.closed.reason)
    else
      let files := if g.operands.isEmpty then ["-"] else g.operands
      let s := files.foldl (Concatenation.addNamed c (Display.ofGiven g)) { effect := c.start }
      let s := if s.display.holdsReturn then s.put [13] else s
      match files.contains "-", c.input with
      | true, .error .closed =>
        s.effect.complain c ("closing standard input: " ++ InputFault.closed.reason)
      | _, _ => s.effect

end ModuleBundler.Shell.Tool
