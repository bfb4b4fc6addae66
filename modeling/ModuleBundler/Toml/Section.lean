/-
# ModuleBundler.Toml.Section -- putting the entries of a document together

Entries arrive one by one, each below the header read last and under a key of
one or more parts. A table may be written by a header, by the keys of others, or
in place, and the ways do not mix: a table that has its header, or that stands in
place, takes no entries from elsewhere, and nothing is written twice.

A table that is first named on the way to another gets its place among its
neighbours anew when its own header follows.
-/

import ModuleBundler.Keyed
import ModuleBundler.Toml.Text
import ModuleBundler.Toml.Value

namespace ModuleBundler.Toml

/-- Why an entry or a header does not fit what stands above it. -/
inductive Conflict where
  /-- A key is taken; the table that it is taken in is told by its path, if at all. -/
  | taken (key : String) (table : Option (List String))
  /-- A key leads through a value that is no table. -/
  | throughValue (path : List String) (kind : String)
  deriving DecidableEq, Repr

/-- What is said of a conflict. -/
def Conflict.message : Conflict → String
  | taken key none => "duplicate key " ++ inTicks key
  | taken key (some []) => "duplicate key " ++ inTicks key ++ " in document root"
  | taken key (some table) =>
    "duplicate key " ++ inTicks key ++ " in table " ++ inTicks (".".intercalate table)
  | throughValue path kind =>
    "dotted key " ++ inTicks (".".intercalate path) ++
      " attempted to extend non-table type (" ++ kind ++ ")"

/-- How a table came to be, and the part of the document that it is written in. -/
inductive TableStyle where
  /-- By its own header; the part reaches to the last value below it. -/
  | headed (place : Span)
  /-- On the way to the header of another table, at that key. -/
  | passed (place : Span)
  /-- On the way to an entry with a key of several parts, at one of them. -/
  | dotted (place : Span)
  deriving DecidableEq, Repr

namespace TableStyle

/-- The part of the document that the table is written in. -/
def place : TableStyle → Span
  | headed p => p
  | passed p => p
  | dotted p => p

/-- Whether the table has its own header. -/
def isHeaded : TableStyle → Bool
  | headed _ => true
  | _ => false

/-- Whether the table was made by a key of several parts. -/
def isDotted : TableStyle → Bool
  | dotted _ => true
  | _ => false

/-- The style once a value has been written below the header. -/
def extendedTo (value : Span) : TableStyle → TableStyle
  | headed p => headed (p.through value)
  | other => other

end TableStyle

/-- A value of a document that may still grow. -/
inductive Item where
  | value (place : Span) (value : Value)
  | table (style : TableStyle) (entries : List (String × Item))
  /-- Tables under one header in double brackets, each with the part that it is
  written in, and the one that is open. -/
  | tables (closed : List (Span × List (String × Item))) (place : Span)
      (last : List (String × Item))
  deriving Repr

/-- A value as an entry of a table in place. A table among them takes no further
entries, as if it had its own header. -/
def Item.inPlace (place : Span) : Value → Item
  | .table entries =>
    .table (.headed place) (entries.map fun entry => (entry.1, .value entry.2.1 entry.2.2))
  | v => .value place v

/-- The entries of a table that may still grow. -/
abbrev Section := List (String × Item)

namespace Section

/-- The item of a key. -/
def get? (s : Section) (key : String) : Option Item :=
  (s.find? fun entry => entry.1 == key).map Prod.snd

/-- Puts an item in place of the one of that key, or behind all others. -/
def put (s : Section) (key : String) (item : Item) : Section :=
  Keyed.put s key item

/-- Takes the item of a key away. -/
def remove (s : Section) (key : String) : Section :=
  s.filter fun entry => entry.1 != key

/-- A change of a table, which may change its style too. -/
abbrev Change := TableStyle → Section → Except Conflict (TableStyle × Section)

/-- Changes the table below a path of keys. Tables that are missing on the way are
made in the given style; by a dotted key, no table with a header is entered.
`above` holds the keys already passed. -/
def below (style : Span → TableStyle) (change : Change) (above : List String) :
    List Key → Change
  | [], own, s => change own s
  | key :: rest, own, s =>
    let passed := above ++ [key.text]
    match s.get? key.text with
    | none => do
      let (inner, entries) ← below style change passed rest (style key.place) []
      return (own, s.put key.text (.table inner entries))
    | some (.value _ v) => .error (.throughValue passed v.kind)
    | some (.tables closed place last) => do
      let (inner, last) ← below style change passed rest (.headed place) last
      return (own, s.put key.text (.tables closed inner.place last))
    | some (.table inner entries) =>
      if (style key.place).isDotted && inner.isHeaded then .error (.taken key.text none)
      else do
        let (inner, entries) ← below style change passed rest inner entries
        return (own, s.put key.text (.table inner entries))

/-- Writes an entry below the table that is open. Where its key is taken in the end,
`table` is named. -/
def assign (table : Option (List String)) (path : List Key) (key : String) (item : Item) : Change :=
  below .dotted (fun own s =>
    if own.isDotted == path.isEmpty then .error (.taken key none)
    else if (s.get? key).isSome then .error (.taken key table)
    else .ok (own, s ++ [(key, item)])) [] path

/-- Changes the table of a header in a whole document. -/
def underHeader (header : List Key) (change : Change) (s : Section) : Except Conflict Section :=
  (below .passed change [] header (.headed (.single 0)) s).map Prod.snd

/-- The conflict of a header whose last key is taken. -/
def headerTaken {α : Type} (path : List Key) (key : Key) : Except Conflict α :=
  .error (.taken key.written (some (path.map Key.text)))

/-- Opens the table of a header, which is written in `place`. -/
def openTable (place : Span) (path : List Key) (key : Key) : Section → Except Conflict Section :=
  underHeader path fun own s =>
    match s.get? key.text with
    | none => .ok (own, s ++ [(key.text, .table (.headed place) [])])
    | some (.table (.passed _) entries) =>
      .ok (own, s.remove key.text ++ [(key.text, .table (.headed place) entries)])
    | some _ => headerTaken path key

/-- Opens one more table of a header in double brackets, which is written in `place`. -/
def openElement (place : Span) (path : List Key) (key : Key) : Section → Except Conflict Section :=
  underHeader path fun own s =>
    match s.get? key.text with
    | none => .ok (own, s ++ [(key.text, .tables [] place [])])
    | some (.tables closed before last) =>
      .ok (own, s.put key.text (.tables (closed ++ [(before, last)]) place []))
    | some _ => headerTaken path key

/-- Writes a value below the table of a header. -/
def assignBelow (header path : List Key) (key : String) (value : Placed) :
    Section → Except Conflict Section :=
  underHeader header fun own s =>
    s.assign (some (header.map Key.text)) path key (.value value.1 value.2)
      (own.extendedTo value.1)

end Section

/-! ## The finished values -/

mutual

/-- The value that an item has grown to. -/
def Item.finish : Item → Placed
  | .value place v => (place, v)
  | .table style entries => (style.place, .table (finishEntries entries))
  | .tables closed place last =>
    (match closed with
      | [] => place
      | first :: _ => first.1.through place,
     .array (finishTables closed ++ [(place, .table (finishEntries last))]))

/-- The values of the entries of a table. -/
def finishEntries : List (String × Item) → Table
  | [] => []
  | (key, item) :: rest => (key, item.finish) :: finishEntries rest

/-- The tables of a header in double brackets. -/
def finishTables : List (Span × List (String × Item)) → List Placed
  | [] => []
  | (place, entries) :: rest => (place, .table (finishEntries entries)) :: finishTables rest

end

end ModuleBundler.Toml
