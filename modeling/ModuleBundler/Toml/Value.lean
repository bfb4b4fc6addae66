/-
# ModuleBundler.Toml.Value -- the data of a TOML document

A document is a table: keys with values, in the order in which they were first
written. Each value comes with the part of the document that it is written in: a
table of its own header reaches from there to its last value, and a table that is
written only by the keys of others stands where it is first named.

Floats keep only what a configuration can tell apart. Whether two values are equal can
be decided, also of arrays and tables with values inside (`Value.same_iff`).
-/

import ModuleBundler.Toml.DateTime
import ModuleBundler.Text.Quoted

namespace ModuleBundler.Toml

/-- A value of a document. -/
inductive Value where
  | string (text : String)
  | integer (value : Int)
  /-- A float, by its shortest text in positional notation. -/
  | float (text : String)
  | boolean (value : Bool)
  | dateTime (value : DateTime)
  | array (items : List (Span × Value))
  | table (entries : List (String × Span × Value))
  deriving Repr

namespace Value

/-- What kind of value a value is, in words. -/
def kind : Value → String
  | string _ => "string"
  | integer _ => "integer"
  | float _ => "float"
  | boolean _ => "boolean"
  | dateTime _ => "datetime"
  | array _ => "array"
  | table _ => "inline table"

/-- A value as the messages name it that refuse it. -/
def description : Value → String
  | string text => "string " ++ Text.quoted text
  | integer n => "integer " ++ inTicks (toString n)
  | float text => "floating point " ++ inTicks text
  | boolean b => "boolean " ++ inTicks (if b then "true" else "false")
  | dateTime _ => "map"
  | array _ => "sequence"
  | table _ => "map"

end Value

/-- A value and the part of the document that it is written in. -/
abbrev Placed := Span × Value

/-- The entries of a table, each key once. -/
abbrev Table := List (String × Placed)

namespace Table

/-- The value of a key. -/
def get? (t : Table) (key : String) : Option Placed :=
  (t.find? fun entry => entry.1 == key).map Prod.snd

end Table

/-! ## Equality -/

mutual

/-- Whether two values are equal, their places included. -/
def Value.same : Value → Value → Bool
  | .string s, .string s' => s == s'
  | .integer n, .integer n' => n == n'
  | .float s, .float s' => s == s'
  | .boolean b, .boolean b' => b == b'
  | .dateTime d, .dateTime d' => d == d'
  | .array items, .array items' => sameItems items items'
  | .table entries, .table entries' => sameEntries entries entries'
  | _, _ => false

/-- Whether the values of two arrays are equal. -/
def sameItems : List Placed → List Placed → Bool
  | [], [] => true
  | (place, v) :: rest, (place', v') :: rest' =>
    place == place' && v.same v' && sameItems rest rest'
  | _, _ => false

/-- Whether the entries of two tables are equal. -/
def sameEntries : Table → Table → Bool
  | [], [] => true
  | (key, place, v) :: rest, (key', place', v') :: rest' =>
    key == key' && place == place' && v.same v' && sameEntries rest rest'
  | _, _ => false

end

mutual

theorem Value.same_iff : ∀ v w : Value, v.same w = true ↔ v = w
  | .string s, w => by cases w <;> simp [Value.same]
  | .integer n, w => by cases w <;> simp [Value.same]
  | .float s, w => by cases w <;> simp [Value.same]
  | .boolean b, w => by cases w <;> simp [Value.same]
  | .dateTime d, w => by cases w <;> simp [Value.same]
  | .array items, w => by cases w <;> simp [Value.same, sameItems_iff items]
  | .table entries, w => by cases w <;> simp [Value.same, sameEntries_iff entries]

theorem sameItems_iff : ∀ items items' : List Placed,
    sameItems items items' = true ↔ items = items'
  | [], items' => by cases items' <;> simp [sameItems]
  | (place, v) :: rest, items' => by
    cases items' <;> simp [sameItems, Prod.ext_iff, v.same_iff, sameItems_iff rest, and_assoc]

theorem sameEntries_iff : ∀ t t' : Table, sameEntries t t' = true ↔ t = t'
  | [], t' => by cases t' <;> simp [sameEntries]
  | (key, place, v) :: rest, t' => by
    cases t' <;> simp [sameEntries, Prod.ext_iff, v.same_iff, sameEntries_iff rest, and_assoc]

end

instance : DecidableEq Value := fun v w => decidable_of_iff _ (v.same_iff w)

end ModuleBundler.Toml
