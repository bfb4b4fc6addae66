/-
# ModuleBundler.Proofs.Toml.Keys -- no key is written twice

In the data of a document, no table holds a key twice, however deep it stands (`parse_distinct`).
A table that may still grow is judged by the data that it has grown to so far: an entry only comes
in under a key that is not there, or in place of the one of its key.
-/

import Mathlib.Data.List.Nodup
import ModuleBundler.Proofs.Job
import ModuleBundler.Proofs.Toml.Reading
import ModuleBundler.Toml.Document

namespace ModuleBundler.Toml

/-! ## Data -/

/-- No table in a value holds a key twice. -/
inductive Value.Distinct : Value → Prop
  | string (text : String) : Distinct (.string text)
  | integer (value : Int) : Distinct (.integer value)
  | float (text : String) : Distinct (.float text)
  | boolean (value : Bool) : Distinct (.boolean value)
  | dateTime (value : DateTime) : Distinct (.dateTime value)
  | array {items : List Placed} : (∀ item ∈ items, Distinct item.2) → Distinct (.array items)
  | table {entries : Table} : (entries.map Prod.fst).Nodup →
      (∀ entry ∈ entries, Distinct entry.2.2) → Distinct (.table entries)

/-- A table holds no key twice, nor does any table inside. -/
def Table.Distinct (t : Table) : Prop := (Value.table t).Distinct

theorem Table.distinct_iff {t : Table} :
    t.Distinct ↔ (t.map Prod.fst).Nodup ∧ ∀ entry ∈ t, entry.2.2.Distinct := by
  constructor
  · rintro (_ | _ | _ | _ | _ | _ | ⟨hnodup, hinside⟩)
    exact ⟨hnodup, hinside⟩
  · rintro ⟨hnodup, hinside⟩
    exact .table hnodup hinside

theorem Value.distinct_array_iff {items : List Placed} :
    (Value.array items).Distinct ↔ ∀ item ∈ items, item.2.Distinct := by
  constructor
  · rintro (_ | _ | _ | _ | _ | hitems)
    exact hitems
  · exact .array

/-! ## Data that may still grow -/

theorem finishEntries_eq_map (s : Section) :
    finishEntries s = s.map fun entry => (entry.1, entry.2.finish) := by
  induction s with
  | nil => rfl
  | cons entry rest ih => rw [finishEntries, ih]; rfl

theorem finishTables_eq_map (closed : List (Span × Section)) :
    finishTables closed = closed.map fun c => (c.1, .table (finishEntries c.2)) := by
  induction closed with
  | nil => rfl
  | cons c rest ih => rw [finishTables, ih]; rfl

/-- The data that an item has grown to holds no key twice. -/
def Item.Distinct (item : Item) : Prop := item.finish.2.Distinct

/-- The data that a table has grown to holds no key twice. -/
def Section.Distinct (s : Section) : Prop := Table.Distinct (finishEntries s)

theorem Item.distinct_value_iff {place : Span} {v : Value} :
    (Item.value place v).Distinct ↔ v.Distinct := by
  rw [Item.Distinct, Item.finish]

theorem Item.distinct_table_iff {style : TableStyle} {s : Section} :
    (Item.table style s).Distinct ↔ s.Distinct := by
  rw [Item.Distinct, Item.finish]
  rfl

theorem Item.distinct_tables_iff {closed : List (Span × Section)} {place : Span} {last : Section} :
    (Item.tables closed place last).Distinct ↔ (∀ c ∈ closed, c.2.Distinct) ∧ last.Distinct := by
  have hfinish : (Item.tables closed place last).finish.2 =
      .array (finishTables closed ++ [(place, .table (finishEntries last))]) := by
    cases closed <;> rfl
  rw [Item.Distinct, hfinish, finishTables_eq_map, Value.distinct_array_iff]
  simp only [List.forall_mem_append, List.forall_mem_map, List.forall_mem_singleton]
  rfl

namespace Section

variable {s : Section} {key : String} {item : Item}

theorem distinct_iff :
    s.Distinct ↔ (s.map Prod.fst).Nodup ∧ ∀ entry ∈ s, entry.2.Distinct := by
  rw [Section.Distinct, Table.distinct_iff, finishEntries_eq_map, List.map_map,
    List.forall_mem_map]
  rfl

theorem distinct_nil : Section.Distinct [] := distinct_iff.mpr ⟨List.nodup_nil, by simp⟩

theorem Distinct.get? (h : s.Distinct) (hget : s.get? key = some item) : item.Distinct := by
  obtain ⟨entry, hentry, rfl⟩ := Option.map_eq_some_iff.mp hget
  exact (distinct_iff.mp h).2 entry (List.mem_of_find?_eq_some hentry)

theorem get?_eq_none_iff : s.get? key = none ↔ key ∉ s.map Prod.fst := by
  rw [get?, Option.map_eq_none_iff, List.find?_eq_none, List.mem_map]
  simp only [beq_iff_eq, not_exists, not_and]

/-- An entry may come in under a new key. -/
theorem Distinct.append (h : s.Distinct) (hnew : s.get? key = none) (hitem : item.Distinct) :
    Section.Distinct (s ++ [(key, item)]) := by
  obtain ⟨hnodup, hinside⟩ := distinct_iff.mp h
  refine distinct_iff.mpr ⟨?_, ?_⟩
  · rw [List.map_append, List.map_singleton, ← List.concat_eq_append]
    exact hnodup.concat (get?_eq_none_iff.mp hnew)
  · exact List.forall_mem_append.mpr ⟨hinside, by simpa using hitem⟩

/-- An entry may be taken away. -/
theorem Distinct.remove (h : s.Distinct) (key : String) : (s.remove key).Distinct := by
  obtain ⟨hnodup, hinside⟩ := distinct_iff.mp h
  exact distinct_iff.mpr ⟨hnodup.sublist (List.filter_sublist.map Prod.fst),
    fun entry hentry => hinside entry (List.mem_filter.mp hentry).1⟩

/-- An entry may come in place of the one of its key. -/
theorem Distinct.put (h : s.Distinct) (hitem : item.Distinct) : (s.put key item).Distinct := by
  obtain ⟨hnodup, hinside⟩ := distinct_iff.mp h
  refine distinct_iff.mpr ⟨Keyed.put_nodup hnodup key item, ?_⟩
  intro entry hentry
  rcases Keyed.eq_or_mem_of_mem_put hentry with rfl | hold
  · exact hitem
  · exact hinside entry hold

theorem remove_get? (s : Section) (key : String) : (s.remove key).get? key = none := by
  rw [get?_eq_none_iff, remove, List.mem_map]
  rintro ⟨entry, hentry, rfl⟩
  simpa using (List.mem_filter.mp hentry).2

/-! ## Changes -/

/-- A change of a table writes no key twice where none was. -/
def Keeps (change : Change) : Prop :=
  ∀ own s own' s', Section.Distinct s → change own s = .ok (own', s') → Section.Distinct s'

/-- A change further down writes no key twice if the change itself does not. -/
theorem below_keeps {style : Span → TableStyle} {change : Change} (h : Keeps change)
    (above : List String) (path : List Key) : Keeps (below style change above path) := by
  -- On each key of the path, one table is put back with another inside, and the change itself
  -- comes in where the path ends.
  induction path generalizing above with
  | nil => exact h
  | cons key rest ih =>
    intro own s own' s' hs hbelow
    rw [below] at hbelow
    split at hbelow
    · obtain ⟨⟨inner, entries⟩, hinner, hdone⟩ := Job.exists_of_bind_eq_ok hbelow
      cases hdone
      exact hs.put (Item.distinct_table_iff.mpr (ih _ _ _ _ _ distinct_nil hinner))
    · cases hbelow
    · next closed place last hget =>
      obtain ⟨⟨inner, entries⟩, hinner, hdone⟩ := Job.exists_of_bind_eq_ok hbelow
      cases hdone
      obtain ⟨hclosed, hlast⟩ := Item.distinct_tables_iff.mp (hs.get? hget)
      exact hs.put (Item.distinct_tables_iff.mpr ⟨hclosed, ih _ _ _ _ _ hlast hinner⟩)
    · next style entries hget =>
      split at hbelow
      · cases hbelow
      · obtain ⟨⟨inner, entries⟩, hinner, hdone⟩ := Job.exists_of_bind_eq_ok hbelow
        cases hdone
        have hentries := Item.distinct_table_iff.mp (hs.get? hget)
        exact hs.put (Item.distinct_table_iff.mpr (ih _ _ _ _ _ hentries hinner))

theorem assign_keeps (hitem : item.Distinct) (table : Option (List String)) (path : List Key)
    (key : String) : Keeps (assign table path key item) := by
  refine below_keeps ?_ [] path
  intro own s own' s' hs hassign
  dsimp only at hassign
  split at hassign
  · cases hassign
  · split at hassign
    · cases hassign
    · next htaken =>
      cases hassign
      exact hs.append (by simpa using htaken) hitem

theorem Distinct.underHeader {s' : Section} {header : List Key} {change : Change} (hs : s.Distinct)
    (h : Keeps change) (hdone : underHeader header change s = .ok s') : s'.Distinct := by
  rw [Section.underHeader] at hdone
  cases hbelow : below .passed change [] header (.headed (.single 0)) s with
  | error conflict =>
    rw [hbelow] at hdone
    cases hdone
  | ok below =>
    rw [hbelow] at hdone
    cases hdone
    exact below_keeps h [] header _ _ _ _ hs hbelow

theorem Distinct.openTable {s' : Section} {place : Span} {path : List Key} {last : Key}
    (hs : s.Distinct) (hdone : openTable place path last s = .ok s') : s'.Distinct := by
  refine hs.underHeader (fun own s own' s' hs hopen => ?_) hdone
  split at hopen
  · next hget =>
    cases hopen
    exact hs.append hget (Item.distinct_table_iff.mpr distinct_nil)
  · next entries hget =>
    cases hopen
    have hentries := Item.distinct_table_iff.mp (hs.get? hget)
    exact (hs.remove _).append (remove_get? _ _) (Item.distinct_table_iff.mpr hentries)
  · cases hopen

theorem Distinct.openElement {s' : Section} {place : Span} {path : List Key} {last : Key}
    (hs : s.Distinct) (hdone : openElement place path last s = .ok s') : s'.Distinct := by
  refine hs.underHeader (fun own s own' s' hs hopen => ?_) hdone
  split at hopen
  · next hget =>
    cases hopen
    exact hs.append hget (Item.distinct_tables_iff.mpr ⟨by simp, distinct_nil⟩)
  · next closed before open_ hget =>
    cases hopen
    obtain ⟨hclosed, hopened⟩ := Item.distinct_tables_iff.mp (hs.get? hget)
    refine hs.put (Item.distinct_tables_iff.mpr ⟨?_, distinct_nil⟩)
    exact List.forall_mem_append.mpr ⟨hclosed, by simpa using hopened⟩
  · cases hopen

theorem Distinct.assignBelow {s' : Section} {header path : List Key} {last : String} {v : Placed}
    (hs : s.Distinct) (hv : v.2.Distinct) (hdone : assignBelow header path last v s = .ok s') :
    s'.Distinct := by
  refine hs.underHeader (fun own s own' s' hs hassign => ?_) hdone
  exact assign_keeps (Item.distinct_value_iff.mpr hv) _ _ _ _ _ _ _ hs hassign

end Section

/-- A table in place is written as it was read. -/
theorem Item.distinct_inPlace {place : Span} {v : Value} (h : v.Distinct) :
    (Item.inPlace place v).Distinct := by
  cases v with
  | table entries =>
    obtain ⟨hnodup, hinside⟩ := Table.distinct_iff.mp h
    refine Item.distinct_table_iff.mpr (Section.distinct_iff.mpr ⟨?_, ?_⟩)
    · rw [List.map_map]
      exact hnodup
    · rw [List.forall_mem_map]
      exact fun entry hentry => Item.distinct_value_iff.mpr (hinside entry hentry)
  | _ => exact Item.distinct_value_iff.mpr h

/-! ## Values that are read -/

open Reader

theorem readEntry_gives {value : Reader Value} {behind : Reader Unit}
    (h : Gives value Value.Distinct) :
    Gives (readEntry value behind) fun entry => entry.2.2.Distinct :=
  gives_bind_any fun _ => gives_final <| gives_bind_any fun _ => gives_bind_any fun _ =>
    gives_bind (gives_spanned h) fun _ hv => gives_bind_any fun _ => gives_pure hv

theorem foldlM_add_distinct {written : List (List Key × Placed)} {s s' : Section}
    (hs : s.Distinct) (hwritten : ∀ entry ∈ written, entry.2.2.Distinct)
    (h : written.foldlM readInline.add s = .ok s') : s'.Distinct := by
  induction written generalizing s with
  | nil =>
    cases h
    exact hs
  | cons entry rest ih =>
    obtain ⟨hentry, hrest⟩ := List.forall_mem_cons.mp hwritten
    rw [List.foldlM_cons] at h
    obtain ⟨next, hadd, h⟩ := Job.exists_of_bind_eq_ok h
    refine ih ?_ hrest h
    obtain ⟨⟨own, grown⟩, hassign, hgrown⟩ := Job.exists_of_map_eq_ok hadd
    cases hgrown
    exact Section.assign_keeps (Item.distinct_inPlace hentry) _ _ _ _ _ _ _ hs hassign

theorem readInline_gives {value : Reader Value} (h : Gives value Value.Distinct) :
    Gives (readInline value) Value.Distinct := by
  have hentries : Gives (readInline.entries value) fun written =>
      ∀ entry ∈ written, entry.2.2.Distinct :=
    gives_bind (gives_separated (readEntry_gives h)) fun _ hwritten =>
      gives_bind_any fun _ => gives_pure hwritten
  refine gives_checked hentries fun written v hwritten hv => ?_
  obtain ⟨s, hs, rfl⟩ := Job.exists_of_map_eq_ok hv
  cases hadd : written.foldlM readInline.add [] with
  | error conflict =>
    rw [hadd] at hs
    cases hs
  | ok grown =>
    rw [hadd] at hs
    cases hs
    exact foldlM_add_distinct Section.distinct_nil hwritten hadd

theorem readTable_gives {value : Reader Value} (h : Gives value Value.Distinct) :
    Gives (readTable value) Value.Distinct :=
  gives_bind_any fun _ => gives_bind (gives_final (readInline_gives h)) fun _ htable =>
    gives_bind_any fun _ => gives_pure htable

theorem readItems_gives {value : Reader Value} (h : Gives value Value.Distinct) :
    Gives (readItems value) fun items => ∀ item ∈ items, item.2.Distinct := by
  refine gives_bind_any fun next => ?_
  split
  · exact gives_pure (by simp)
  · refine gives_bind (gives_separated (gives_bind_any fun _ => gives_bind (gives_spanned h)
      fun _ hv => gives_bind_any fun _ => gives_pure hv)) fun items hitems => ?_
    dsimp only
    split
    · exact gives_bind_any fun _ => gives_pure hitems
    · exact gives_bind_any fun _ => gives_bind_any fun _ => gives_pure hitems

theorem readArray_gives {value : Reader Value} (h : Gives value Value.Distinct) :
    Gives (readArray value) Value.Distinct :=
  gives_bind_any fun _ => gives_bind (gives_final (readItems_gives h)) fun _ hitems =>
    gives_bind_any fun _ => gives_pure (.array hitems)

theorem readNumber_gives : Gives readNumber Value.Distinct :=
  gives_orElse (gives_map_any .dateTime) <|
    gives_orElse (gives_map_any .float) (gives_map_any .integer)

theorem readNested_gives {read : Reader Value → Reader Value} {inner : Option (Reader Value)}
    (hread : ∀ value, Gives value Value.Distinct → Gives (read value) Value.Distinct)
    (hinner : ∀ value ∈ inner, Gives value Value.Distinct) :
    Gives (readNested read inner) Value.Distinct := by
  cases inner with
  | none => exact gives_throw _
  | some value => exact hread value (hinner value rfl)

theorem readValueWith_gives {inner : Option (Reader Value)}
    (h : ∀ value ∈ inner, Gives value Value.Distinct) :
    Gives (readValueWith inner) Value.Distinct := by
  have hword (word : List Char) (b : Bool) :
      Gives (orString (final (do text word; return .boolean b))) Value.Distinct :=
    gives_named (gives_wanting (gives_final (gives_bind_any fun _ => gives_pure (.boolean b))) _) _
  refine gives_bind_any fun next => ?_
  split
  · exact gives_refuse
  · exact gives_ite (gives_map_any .string) <|
      gives_ite (readNested_gives (fun _ => readArray_gives) h) <|
      gives_ite (readNested_gives (fun _ => readTable_gives) h) <|
      gives_ite readNumber_gives <|
      gives_ite (gives_map_any .integer) <|
      gives_ite (gives_map_any .float) <|
      gives_ite (hword _ true) <|
      gives_ite (hword _ false) <|
      gives_ite (gives_map_any .float) <|
      gives_ite (gives_map_any .float) <|
      gives_named (gives_wanting gives_refuse _) _

theorem readValue_gives (depth : Nat) : Gives (readValue depth) Value.Distinct := by
  induction depth with
  | zero => exact readValueWith_gives (by simp)
  | succ depth ih =>
    refine readValueWith_gives ?_
    rintro _ ⟨⟩
    exact ih

/-! ## Documents -/

theorem readHeader_gives {brackets : Nat}
    {openBelow : Span → List Key → Key → Section → Except Conflict Section} {p : Progress}
    (h : ∀ place path last s', openBelow place path last p.root = .ok s' → s'.Distinct) :
    Gives (readHeader brackets openBelow p) fun p => p.root.Distinct := by
  refine gives_checked (gives_any _) fun header p' _ hopen => ?_
  dsimp only at hopen
  split at hopen
  · next root hroot =>
    cases hopen
    exact h _ _ _ _ hroot
  · cases hopen

theorem readAnyHeader_gives {p : Progress} (hp : p.root.Distinct) :
    Gives (readAnyHeader p) fun p => p.root.Distinct := by
  refine gives_named (gives_bind_any fun rest => ?_) _
  split
  · exact readHeader_gives fun _ _ _ _ hopen => hp.openElement hopen
  · exact readHeader_gives fun _ _ _ _ hopen => hp.openTable hopen
  · exact gives_refuse

theorem readAssignment_gives {p : Progress} (hp : p.root.Distinct) :
    Gives (readAssignment p) fun p => p.root.Distinct := by
  refine gives_checked (readEntry_gives (readValue_gives _)) fun entry p' hentry hassign => ?_
  dsimp only at hassign
  split at hassign
  · next root hroot =>
    cases hassign
    exact hp.assignBelow hentry hroot
  · cases hassign

theorem readExpression_gives {p : Progress} (hp : p.root.Distinct) :
    Gives (readExpression p) fun p => p.root.Distinct := by
  refine gives_bind_any fun next => ?_
  split
  · exact gives_refuse
  · exact gives_ite (gives_bind_any fun _ => gives_pure hp) <|
      gives_ite (gives_bind_any fun _ => gives_pure hp) <|
      gives_ite (gives_final (readAnyHeader_gives hp)) <|
      gives_final (readAssignment_gives hp)

theorem readExpressions_gives (expressions : Nat) {p : Progress} (hp : p.root.Distinct) :
    Gives (readExpressions expressions p) fun p => p.root.Distinct := by
  induction expressions generalizing p with
  | zero => exact gives_pure hp
  | succ expressions ih =>
    have hone : Gives (do let p ← readExpression p; skipWhite; return p)
        fun p => p.root.Distinct :=
      gives_bind (readExpression_gives hp) fun _ hnext =>
        gives_bind_any fun _ => gives_pure hnext
    refine gives_bind (gives_maybe hone) fun found hfound => ?_
    cases found with
    | none => exact gives_pure hp
    | some next => exact ih (hfound next rfl)

theorem readDocument_gives : Gives readDocument Table.Distinct :=
  gives_bind_any fun _ => gives_bind_any fun _ => gives_bind_any fun _ =>
    gives_bind (readExpressions_gives _ Section.distinct_nil) fun _ hp =>
      gives_bind_any fun _ => gives_pure hp

/-- In the data of a document, no table holds a key twice. -/
theorem parse_distinct {text : String} {t : Table} (h : parse text = .ok t) : t.Distinct :=
  readDocument_gives.apply h

end ModuleBundler.Toml
