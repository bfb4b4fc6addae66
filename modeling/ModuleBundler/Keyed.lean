/-
# ModuleBundler.Keyed -- lists of values under keys

Entries are kept in the order in which their keys came. Putting a value under a key
replaces what stands there, at its place; a new key comes last. So no key comes to
stand twice (`put_nodup`), and where none does, a look-up finds the one entry of its
key, wherever that stands (`lookup_eq_some_iff`).

Putting in all entries of another list is a union in which that list wins. It is told
by its keys in order and by its look-ups (`putAll_keys`, `lookup_putAll`, `ext_lookup`),
so that it does not count in which order three lists are put together.
-/

namespace ModuleBundler.Keyed

variable {κ α : Type}

/-! ## Look-ups -/

section Lookup

variable [BEq κ] [LawfulBEq κ]

theorem lookup_eq_none_iff {entries : List (κ × α)} {key : κ} :
    entries.lookup key = none ↔ key ∉ entries.map Prod.fst := by
  rw [List.lookup_eq_none_iff, List.mem_map]
  constructor
  · rintro h ⟨entry, hentry, rfl⟩
    simpa using h entry hentry
  · intro h entry hentry
    rw [bne_iff_ne]
    rintro rfl
    exact h ⟨entry, hentry, rfl⟩

variable [DecidableEq κ]

theorem lookup_cons (entry : κ × α) (rest : List (κ × α)) (key : κ) :
    (entry :: rest).lookup key = if key = entry.1 then some entry.2 else rest.lookup key := by
  rw [List.lookup_cons]
  by_cases h : key = entry.1
  · rw [if_pos h, beq_iff_eq.mpr h]
  · rw [if_neg h, beq_false_of_ne h]

/-- Where no key stands twice, a look-up finds the entry of its key. -/
theorem lookup_eq_some_iff {entries : List (κ × α)} (h : (entries.map Prod.fst).Nodup) {key : κ}
    {value : α} : entries.lookup key = some value ↔ (key, value) ∈ entries := by
  induction entries with
  | nil => simp
  | cons entry rest ih =>
    obtain ⟨hnew, hrest⟩ := List.nodup_cons.mp h
    rw [lookup_cons, List.mem_cons]
    by_cases hkey : key = entry.1
    · have hnone : (key, value) ∉ rest := fun hmem => hnew (hkey ▸ List.mem_map_of_mem hmem)
      rw [if_pos hkey, or_iff_left hnone, Option.some.injEq]
      exact ⟨fun h => Prod.ext hkey h.symm, fun h => congrArg Prod.snd h.symm⟩
    · have hne : ¬ (key, value) = entry := fun heq => hkey (congrArg Prod.fst heq)
      rw [if_neg hkey, or_iff_right hne]
      exact ih hrest

/-- Entries with the same keys in order and the same value under each key are the same. -/
theorem ext_lookup {entries entries' : List (κ × α)} (h : (entries.map Prod.fst).Nodup)
    (hkeys : entries.map Prod.fst = entries'.map Prod.fst)
    (hlookup : ∀ key, entries.lookup key = entries'.lookup key) : entries = entries' := by
  induction entries generalizing entries' with
  | nil => exact (List.map_eq_nil_iff.mp hkeys.symm).symm
  | cons entry rest ih =>
    cases entries' with
    | nil => cases hkeys
    | cons entry' rest' =>
      obtain ⟨hkey, hrest⟩ := List.cons.inj hkeys
      obtain ⟨hnew, hnodup⟩ := List.nodup_cons.mp h
      have hvalue : entry.2 = entry'.2 := by
        have hfirst := hlookup entry.1
        rw [lookup_cons, lookup_cons, if_pos rfl, if_pos hkey] at hfirst
        exact Option.some.inj hfirst
      have hsame : rest = rest' := by
        refine ih hnodup hrest fun key => ?_
        by_cases hfirst : key = entry.1
        · -- This key stands in neither rest.
          rw [lookup_eq_none_iff.mpr (hfirst ▸ hnew),
            lookup_eq_none_iff.mpr (hrest ▸ hfirst ▸ hnew)]
        · have hboth := hlookup key
          rw [lookup_cons, lookup_cons, if_neg hfirst, if_neg (hkey ▸ hfirst)] at hboth
          exact hboth
      rw [Prod.ext hkey hvalue, hsame]

end Lookup

/-! ## Putting in -/

variable [DecidableEq κ]

/-- Puts a value under a key, in place of what stands there. -/
def put : List (κ × α) → κ → α → List (κ × α)
  | [], key, value => [(key, value)]
  | entry :: rest, key, value =>
    if entry.1 = key then (key, value) :: rest else entry :: put rest key value

/-- The keys stay in their order; a new one comes last. -/
theorem put_keys (entries : List (κ × α)) (key : κ) (value : α) :
    (put entries key value).map Prod.fst =
      if key ∈ entries.map Prod.fst then entries.map Prod.fst
      else entries.map Prod.fst ++ [key] := by
  induction entries with
  | nil => rfl
  | cons entry rest ih =>
    by_cases h : entry.1 = key
    · simp [put, h]
    · have hne : ¬ key = entry.1 := fun heq => h heq.symm
      rw [put, if_neg h, List.map_cons, ih, List.map_cons]
      by_cases hrest : key ∈ rest.map Prod.fst
      · rw [if_pos hrest, if_pos (List.mem_cons_of_mem _ hrest)]
      · rw [if_neg hrest, if_neg (by simpa [hne] using hrest), List.cons_append]

theorem put_of_notMem {entries : List (κ × α)} {key : κ}
    (h : key ∉ entries.map Prod.fst) (value : α) :
    put entries key value = entries ++ [(key, value)] := by
  induction entries with
  | nil => rfl
  | cons entry rest ih =>
    obtain ⟨hne, hrest⟩ := not_or.mp (mt List.mem_cons.mpr h)
    rw [put, if_neg (Ne.symm hne), ih hrest, List.cons_append]

theorem put_nodup {entries : List (κ × α)} (h : (entries.map Prod.fst).Nodup) (key : κ)
    (value : α) : ((put entries key value).map Prod.fst).Nodup := by
  rw [put_keys]
  split
  · exact h
  · next hnew =>
    rw [List.nodup_append]
    refine ⟨h, by simp, ?_⟩
    rintro other hother _ hmem rfl
    rw [List.mem_singleton.mp hmem] at hother
    exact hnew hother

/-- An entry was put in, or was there before. -/
theorem eq_or_mem_of_mem_put {entries : List (κ × α)} {key : κ} {value : α} {entry : κ × α}
    (h : entry ∈ put entries key value) : entry = (key, value) ∨ entry ∈ entries := by
  induction entries with
  | nil => exact .inl (List.mem_singleton.mp h)
  | cons first rest ih =>
    rw [put] at h
    split at h
    · exact (List.mem_cons.mp h).imp_right (List.mem_cons_of_mem _)
    · rcases List.mem_cons.mp h with rfl | hrest
      · exact .inr List.mem_cons_self
      · exact (ih hrest).imp_right (List.mem_cons_of_mem _)

/-- What was put under a key is found there, and no other look-up changes. -/
theorem lookup_put [BEq κ] [LawfulBEq κ] (entries : List (κ × α)) (key other : κ) (value : α) :
    (put entries key value).lookup other =
      if other = key then some value else entries.lookup other := by
  induction entries with
  | nil => exact lookup_cons (key, value) [] other
  | cons entry rest ih =>
    by_cases h : entry.1 = key
    · rw [put, if_pos h, lookup_cons, lookup_cons, h]
      split
      · rfl
      · rfl
    · rw [put, if_neg h, lookup_cons, lookup_cons, ih]
      by_cases hother : other = key
      · rw [if_neg fun heq => h (heq.symm.trans hother), if_pos hother, if_pos hother]
      · rw [if_neg hother, if_neg hother]

/-! ## Lists put together -/

/-- Puts entries in, one after the other. -/
def putAll (entries upper : List (κ × α)) : List (κ × α) :=
  upper.foldl (fun entries entry => put entries entry.1 entry.2) entries

theorem putAll_nodup {entries : List (κ × α)} (h : (entries.map Prod.fst).Nodup)
    (upper : List (κ × α)) : ((putAll entries upper).map Prod.fst).Nodup := by
  induction upper generalizing entries with
  | nil => exact h
  | cons entry rest ih => exact ih (put_nodup h entry.1 entry.2)

/-- Entries with keys of their own come behind the others as they stand. -/
theorem putAll_of_nodup {entries upper : List (κ × α)}
    (h : ((entries ++ upper).map Prod.fst).Nodup) : putAll entries upper = entries ++ upper := by
  induction upper generalizing entries with
  | nil => exact (List.append_nil entries).symm
  | cons entry rest ih =>
    have hnew : entry.1 ∉ entries.map Prod.fst := by
      rw [List.map_append, List.map_cons] at h
      intro hmem
      exact (List.nodup_append.mp h).2.2 _ hmem _ List.mem_cons_self rfl
    calc putAll entries (entry :: rest)
        = putAll (entries ++ [entry]) rest := by
          rw [putAll, List.foldl_cons, put_of_notMem hnew, putAll]
      _ = entries ++ [entry] ++ rest := ih (by simpa using h)
      _ = entries ++ entry :: rest := by simp

section Union

variable {lower middle upper : List (κ × α)}

/-- The keys are those of the lower list, and behind them those that only the upper one has. -/
theorem putAll_keys (hupper : (upper.map Prod.fst).Nodup) :
    (putAll lower upper).map Prod.fst =
      lower.map Prod.fst ++ (upper.map Prod.fst).filter (· ∉ lower.map Prod.fst) := by
  induction upper generalizing lower with
  | nil => exact (List.append_nil _).symm
  | cons entry rest ih =>
    obtain ⟨hnew, hrest⟩ := List.nodup_cons.mp hupper
    show (putAll (put lower entry.1 entry.2) rest).map Prod.fst = _
    rw [ih hrest, put_keys, List.map_cons]
    by_cases h : entry.1 ∈ lower.map Prod.fst
    · rw [if_pos h, List.filter_cons_of_neg (by simpa using h)]
    · rw [if_neg h, List.filter_cons_of_pos (by simpa using h), List.append_assoc,
        List.singleton_append]
      congr 2
      refine List.filter_congr fun key hkey => ?_
      have hne : key ≠ entry.1 := fun heq => hnew (heq ▸ hkey)
      simp [hne]

/-- Under each key stands the value of the upper list, where it has one. -/
theorem lookup_putAll [BEq κ] [LawfulBEq κ] (hupper : (upper.map Prod.fst).Nodup) (key : κ) :
    (putAll lower upper).lookup key = (upper.lookup key).or (lower.lookup key) := by
  induction upper generalizing lower with
  | nil => rfl
  | cons entry rest ih =>
    obtain ⟨hnew, hrest⟩ := List.nodup_cons.mp hupper
    show (putAll (put lower entry.1 entry.2) rest).lookup key = _
    rw [ih hrest, lookup_put, lookup_cons]
    by_cases h : key = entry.1
    · rw [if_pos h, if_pos h, lookup_eq_none_iff.mpr (h ▸ hnew), Option.none_or, Option.some_or]
    · rw [if_neg h, if_neg h]

/-- Three lists can be put together from either end. -/
theorem putAll_assoc (hlower : (lower.map Prod.fst).Nodup) (hmiddle : (middle.map Prod.fst).Nodup)
    (hupper : (upper.map Prod.fst).Nodup) :
    putAll (putAll lower middle) upper = putAll lower (putAll middle upper) := by
  have hboth := putAll_nodup hmiddle upper
  refine ext_lookup (putAll_nodup (putAll_nodup hlower middle) upper) ?_ fun key => ?_
  · -- A key of the upper list is new in the end if it is new in both lists below.
    have hnew (key : κ) : decide (key ∉ (putAll lower middle).map Prod.fst) =
        (decide (key ∉ lower.map Prod.fst) && decide (key ∉ middle.map Prod.fst)) := by
      rw [putAll_keys hmiddle]
      by_cases hkey : key ∈ lower.map Prod.fst <;> simp [hkey]
    rw [putAll_keys hupper, putAll_keys hmiddle, putAll_keys hboth, putAll_keys hupper,
      List.filter_append, List.filter_filter, List.append_assoc]
    congr 2
    refine List.filter_congr fun key _ => ?_
    rw [← putAll_keys hmiddle, hnew]
  · rw [lookup_putAll hupper, lookup_putAll hmiddle, lookup_putAll hboth, lookup_putAll hupper,
      Option.or_assoc]

end Union

end ModuleBundler.Keyed
