/-
# ModuleBundler.Log.Selection -- which events are shown

The flags of the command line set the level down to which events are shown. The
environment can replace them by directives, separated by commas: a level for
everything, or for the parts of the program whose names start in a certain way, or
for the events with certain fields. Of the directives about an event, the one that
says most exactly what it is about counts (`Directive.isMoreExact`); an event that
no directive is about is not shown.

Malformed directives do not count, and are complained of.
-/

import ModuleBundler.Log
import ModuleBundler.Log.FieldPattern
import ModuleBundler.Text.Blank
import ModuleBundler.Text.Search

namespace ModuleBundler.Log

/-- Events down to a level, or none at all. -/
abbrev Threshold := Option Level

namespace Threshold

/-- The thresholds in the order of their numbers, with their names. -/
def named : List (String × Threshold) :=
  [("off", none), ("error", some .error), ("warn", some .warn), ("info", some .info),
   ("debug", some .debug), ("trace", some .trace)]

/-- Reads a number, which may have a plus in front. -/
def number? (text : List Char) : Option Nat :=
  match text with
  | '+' :: digits => (String.ofList digits).toNat?
  | digits => (String.ofList digits).toNat?

/-- Reads a threshold: a number, or a name in any case. -/
def ofText? (text : List Char) : Option Threshold :=
  match if text.contains '_' then none else number? text with
  | some n => named[n]?.map Prod.snd
  | none =>
    (named.find? fun entry => entry.1.toList == text.map Char.toLower).map Prod.snd

/-- Whether events of a level are shown. -/
def admits : Threshold → Level → Bool
  | none, _ => false
  | some lowest, level => level.rank ≤ lowest.rank

end Threshold

/-! ## Directives -/

/-- A directive: what it is about, and which events of that are shown. -/
structure Directive where
  /-- How the names of the parts start that it is about, if not all. -/
  target : Option String := none
  /-- Whether it is about what happens within a certain activity, which no event does. -/
  isScoped : Bool := false
  /-- The names that an event has to have. -/
  fields : List String := []
  threshold : Threshold := some .trace
  deriving DecidableEq, Repr

/-- What is wrong with a directive. -/
inductive Directive.Fault where
  | malformed
  | noThreshold
  /-- The value of a field is no pattern. -/
  | field (fault : FieldPattern.Fault)
  deriving DecidableEq, Repr

/-- What is said of a fault. -/
def Directive.Fault.message : Directive.Fault → String
  | malformed => "invalid filter directive"
  | noThreshold =>
    "error parsing level filter: expected one of " ++
      ", ".intercalate (Threshold.named.map fun entry => "\"" ++ entry.1 ++ "\"") ++
      ", or a number 0-5"
  | field fault => "invalid field filter: " ++ fault.message

namespace Directive

/-- What is being read of a directive, and the place where that starts. -/
inductive Stage where
  | start
  /-- A threshold, or a target. -/
  | name (first : Nat)
  /-- The name of an activity, in brackets. -/
  | activity (first : Nat)
  /-- A field, in braces in those brackets. -/
  | field (first : Nat)
  | fieldsEnd
  | filterEnd
  | threshold (first : Nat)
  deriving DecidableEq, Repr

/-- Whether a directive may start with a character. -/
def isStart (c : Char) : Bool :=
  Text.isAlphanumeric c || c == '-' || c == ':' || c == '_'

/-- The directive with a field that events have to have. A field with a value is
about activities. -/
def withField (d : Directive) (field : List Char) : Except Fault Directive :=
  if field.isEmpty then .error .malformed
  else match Text.splitOn '=' field with
    | _ :: value :: _ =>
      match FieldPattern.fault? value with
      | some fault => .error (.field fault)
      | none => .ok { d with isScoped := true }
    | _ => .ok { d with fields := d.fields ++ [String.ofList field] }

/-- The directive with a threshold; without one, everything is shown. -/
def withThreshold (d : Directive) (text : List Char) : Except Fault Directive :=
  if text.isEmpty then .ok { d with threshold := some .trace }
  else match Threshold.ofText? text with
    | some t => .ok { d with threshold := t }
    | none => .error .noThreshold

/-- Reads the character at a place of a directive; `part` gives what is written from
one place to another. -/
def step (part : Nat → Nat → List Char) (state : Directive × Stage) (entry : Char × Nat) :
    Except Fault (Directive × Stage) :=
  let (d, stage) := state
  let (c, i) := entry
  match stage with
  | .start =>
    if c = '[' then .ok (d, .activity (i + 1))
    else if isStart c then .ok (d, .name i)
    else .error .malformed
  | .name first =>
    if c = '=' then .ok ({ d with target := some (String.ofList (part first i)) }, .threshold (i + 1))
    else if c = '[' then
      .ok ({ d with target := some (String.ofList (part first i)) }, .activity (i + 1))
    else .ok state
  | .activity first =>
    if c = ']' then .ok ({ d with isScoped := true }, .filterEnd)
    else if c = '\x7b' then
      .ok (if (part first i).isEmpty then d else { d with isScoped := true }, .field (i + 1))
    else .ok state
  | .field first =>
    if c = '\x7d' then (d.withField (part first i)).map fun d => (d, .fieldsEnd)
    else .ok state
  | .fieldsEnd => if c = ']' then .ok (d, .filterEnd) else .error .malformed
  | .filterEnd => if c = '=' then .ok (d, .threshold (i + 1)) else .error .malformed
  | .threshold _ => .ok state

/-- What a directive says once it is read to its end. -/
def finish (tail : Nat → List Char) (d : Directive) : Stage → Except Fault Directive
  | .name first =>
    match Threshold.ofText? (tail first) with
    | some t => .ok { d with threshold := t }
    | none => .ok { d with target := some (String.ofList (tail first)) }
  | .threshold first => d.withThreshold (tail first)
  | .filterEnd => .ok d
  | _ => .error .malformed

/-- Reads a directive. White space around it does not count for where its parts
are, but stands in them: a directive with a blank in front names no level. -/
def ofText (text : List Char) : Except Fault Directive := do
  let trimmed := (Text.trimStart (Text.trimStart text).reverse).reverse
  let (d, stage) ← trimmed.zipIdx.foldlM
    (step fun first last => (text.drop first).take (last - first)) ({}, .start)
  finish (fun first => text.drop first) d stage

/-- Whether a directive is about an event. -/
def concerns (d : Directive) (e : Event) : Bool :=
  !d.isScoped &&
  (d.target.all fun target => target.toList.isPrefixOf e.part.name.toList) &&
  d.fields.all fun field => e.names.contains field

/-- Whether one directive about an event says more exactly than another, or as
exactly, what it is about: by the length of its target, then by the number of its
fields, then by their order. -/
def isMoreExact (d other : Directive) : Bool :=
  let length (d : Directive) : Nat := (d.target.map fun t => t.utf8ByteSize + 1).getD 0
  if length d ≠ length other then length other < length d
  else if d.fields.length ≠ other.fields.length then other.fields.length < d.fields.length
  else !decide (d.fields < other.fields)

end Directive

/-! ## Selections -/

/-- What is shown, by directives. -/
structure Selection where
  directives : List Directive
  deriving DecidableEq, Repr

namespace Selection

/-- The directives of a setting as they are written. -/
def written (setting : Option String) : List (List Char) :=
  (Text.splitOn ',' (setting.getD "").toList).filter fun text => !text.isEmpty

/-- What the environment selects and, where it says nothing, the flags. -/
def ofSetting (flags : Level) (setting : Option String) : Selection :=
  match (written setting).filterMap fun text => (Directive.ofText text).toOption with
  | [] => ⟨[{ threshold := some flags }]⟩
  | directives => ⟨directives⟩

/-- What is said of the malformed directives of a setting, a line for each. -/
def complaints (setting : Option String) : List String :=
  (written setting).filterMap fun text =>
    match Directive.ofText text with
    | .ok _ => none
    | .error fault =>
      some ("ignoring \x60" ++ String.ofList text ++ "\x60: " ++ fault.message)

/-- The threshold of an event: that of the most exact directive about it, and of
several such, of the last one. -/
def threshold (s : Selection) (e : Event) : Threshold :=
  ((s.directives.filter (·.concerns e)).foldl
    (fun (best : Option Directive) d =>
      match best with
      | some b => if d.isMoreExact b then some d else best
      | none => some d)
    none).bind Directive.threshold

/-- Whether an event is shown. -/
def shows (s : Selection) (e : Event) : Bool :=
  (s.threshold e).admits e.level

end Selection

end ModuleBundler.Log
