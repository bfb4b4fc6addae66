/-
# ModuleBundler.Proofs.Toml.Lookup -- what stands under a key

Where a table holds each key once, an entry is what is found under its key
(`Table.Distinct.get?_eq_some_iff`). What a document says does not depend on where it says it: a
value is compared with its places left out (`Value.bare`).
-/

import ModuleBundler.Proofs.Toml.Keys

namespace ModuleBundler.Toml

/-! ## Values without places -/

mutual

/-- A value, with all places inside left out. -/
def Value.bare : Value → Value
  | .array items => .array (bareItems items)
  | .table entries => .table (bareEntries entries)
  | v => v

/-- The values of an array, with all places left out. -/
def bareItems : List Placed → List Placed
  | [] => []
  | (_, v) :: rest => (⟨0, 0⟩, v.bare) :: bareItems rest

/-- The entries of a table, with all places left out. -/
def bareEntries : Table → Table
  | [] => []
  | (key, _, v) :: rest => (key, ⟨0, 0⟩, v.bare) :: bareEntries rest

end

theorem bareItems_eq_map (items : List Placed) :
    bareItems items = items.map fun item => (⟨0, 0⟩, item.2.bare) := by
  induction items with
  | nil => rfl
  | cons item rest ih => rw [bareItems, ih]; rfl

theorem Value.bare_eq_string_iff {v : Value} {text : String} :
    v.bare = .string text ↔ v = .string text := by
  cases v <;> simp [Value.bare]

theorem Value.bare_eq_boolean_iff {v : Value} {b : Bool} :
    v.bare = .boolean b ↔ v = .boolean b := by
  cases v <;> simp [Value.bare]

/-- An array of strings, as it is written. -/
def Value.ofStrings (texts : List String) : Value :=
  .array (texts.map fun text => (⟨0, 0⟩, .string text))

theorem Value.bare_eq_ofStrings_iff {v : Value} {texts : List String} :
    v.bare = .ofStrings texts ↔
      ∃ items, v = .array items ∧
        List.Forall₂ (fun item text => item.2 = .string text) items texts := by
  cases v with
  | array items =>
    rw [bare, ofStrings, Value.array.injEq, bareItems_eq_map, ← List.forall₂_eq_eq_eq,
      List.forall₂_map_left_iff, List.forall₂_map_right_iff]
    simp [Value.bare_eq_string_iff]
  | _ => simp [bare, ofStrings]

theorem Value.ofStrings_injective : Function.Injective Value.ofStrings := by
  intro texts texts' h
  refine List.map_injective_iff.mpr ?_ (Value.array.inj h)
  intro text text' h
  simpa using h

/-! ## Tables -/

namespace Table

variable {t : Table} {key : String} {v : Placed}

/-- The value of a key, with all places left out. -/
def bare? (t : Table) (key : String) : Option Value :=
  (t.get? key).map fun v => v.2.bare

/-- Whether the value of a key, if there is one, has a form. -/
def holds (t : Table) (key : String) (form : Value → Bool) : Bool :=
  (t.get? key).all fun v => form v.2

/-- The entries of the table under a key, and none where there is no table. -/
def inner (t : Table) (key : String) : Table :=
  match t.get? key with
  | some (_, .table entries) => entries
  | _ => []

theorem holds_iff {form : Value → Bool} :
    t.holds key form = true ↔ ∀ v, t.get? key = some v → form v.2 = true := by
  rw [holds, Option.all_eq_true_iff_get]
  cases t.get? key <;> simp

theorem mem_of_get? (h : t.get? key = some v) : (key, v) ∈ t := by
  obtain ⟨⟨key', v'⟩, hfind, rfl⟩ := Option.map_eq_some_iff.mp h
  have hkey := List.find?_some hfind
  rw [← eq_of_beq hkey]
  exact List.mem_of_find?_eq_some hfind

/-- In a table that holds each key once, an entry is what is found under its key. -/
theorem Distinct.get?_eq_some_iff (h : t.Distinct) : t.get? key = some v ↔ (key, v) ∈ t := by
  refine ⟨mem_of_get?, fun hmem => ?_⟩
  cases hget : t.get? key with
  | none =>
    rw [get?, Option.map_eq_none_iff, List.find?_eq_none] at hget
    exact absurd (beq_self_eq_true key) (hget _ hmem)
  | some w =>
    have hsame := List.inj_on_of_nodup_map (distinct_iff.mp h).1 hmem (mem_of_get? hget) rfl
    rw [(Prod.mk.inj hsame).2]

theorem Distinct.value (h : t.Distinct) (hget : t.get? key = some v) : v.2.Distinct :=
  (distinct_iff.mp h).2 _ (mem_of_get? hget)

theorem Distinct.inner (h : t.Distinct) (key : String) : (t.inner key).Distinct := by
  rw [Table.inner]
  split
  · next hget => exact h.value hget
  · exact distinct_iff.mpr ⟨List.nodup_nil, by simp⟩

end Table

end ModuleBundler.Toml
