/-
# ModuleBundler.Proofs.Config.Written -- what a document says of a configuration

Which documents are configurations is told by the kinds of the values under the keys that mean
something (`Form.config`), and which configuration a document is, by those values as they are
written (`Config.Written`). Neither asks how a document is decoded, nor whether there is anything
under other keys. The first one is the second one without the values: a document has the form of
a configuration exactly if some configuration is written there (`Form.config_iff`).
-/

import ModuleBundler.Config.Basic
import ModuleBundler.Proofs.Toml.Lookup

namespace ModuleBundler

open Toml (Value Placed Table)

/-! ## The form of a document -/

namespace Form

/-- A string. -/
def string : Value → Bool
  | .string _ => true
  | _ => false

/-- A boolean. -/
def boolean : Value → Bool
  | .boolean _ => true
  | _ => false

/-- An array of strings. -/
def strings : Value → Bool
  | .array items => items.all fun item => string item.2
  | _ => false

/-- A string or an array of strings. -/
def patterns (v : Value) : Bool :=
  string v || strings v

/-- A table whose entries have a form. -/
def table (form : Table → Bool) : Value → Bool
  | .table entries => form entries
  | _ => false

/-- The entries of a section of options. -/
def options (t : Table) : Bool :=
  (["root", "definition_token", "var_name"].all fun key => t.holds key string) &&
    ["concatenate_only", "add_compress_targets"].all fun key => t.holds key boolean

/-- The entries of the section of a target. -/
def target (t : Table) : Bool :=
  t.holds "src" patterns && t.holds "files" patterns && t.holds "dest" string &&
    t.holds "options" (table options)

/-- The entries of the section of the global options and the targets. -/
def bundle (t : Table) : Bool :=
  t.holds "options" (table options) &&
    (t.filter fun entry => entry.1 != "options").all fun entry => table target entry.2.2

/-- The entries of the section of the compress command, which is required. -/
def compress (t : Table) : Bool :=
  (t.get? "command").any fun v => strings v.2

/-- The entries of a document. -/
def config (t : Table) : Bool :=
  t.holds "bundle" (table bundle) && t.holds "compress" (table compress)

end Form

/-! ## What is written -/

/-- What stands under a key is a section with such entries. A section that is missing is one
without entries. -/
def Toml.Table.Under (t : Table) (key : String) (p : Table → Prop) : Prop :=
  match t.get? key with
  | none => p []
  | some (_, .table entries) => p entries
  | some _ => False

theorem Toml.Table.under_of_none {t : Table} {key : String} {p : Table → Prop}
    (h : t.get? key = none) : t.Under key p ↔ p [] := by
  rw [Under, h]

theorem Toml.Table.under_of_some {t : Table} {key : String} {p : Table → Prop} {v : Placed}
    (h : t.get? key = some v) : t.Under key p ↔ ∃ entries, v.2 = .table entries ∧ p entries := by
  obtain ⟨place, v⟩ := v
  rw [Under, h]
  cases v <;> simp

theorem Toml.Table.Under.inner {t : Table} {key : String} {p : Table → Prop}
    (h : t.Under key p) : p (t.inner key) := by
  unfold Table.inner
  cases hget : t.get? key with
  | none => exact (under_of_none hget).mp h
  | some v =>
    obtain ⟨entries, hv, hp⟩ := (under_of_some hget).mp h
    obtain ⟨place, v⟩ := v
    cases hv
    exact hp

/-- A layer of options is written in the entries of a section. -/
@[mk_iff]
structure Overrides.Written (o : Overrides) (t : Table) : Prop where
  root : t.bare? "root" = o.root.map .string
  definitionToken : t.bare? "definition_token" = o.definitionToken.map .string
  concatenateOnly : t.bare? "concatenate_only" = o.concatenateOnly.map .boolean
  varName : t.bare? "var_name" = o.varName.map .string
  addCompressTargets : t.bare? "add_compress_targets" = o.addCompressTargets.map .boolean

/-- Input patterns, as they are written. -/
def Patterns.toValue : Patterns → Value
  | .one pattern => .string pattern
  | .many patterns => .ofStrings patterns

/-- The section of a target is written in these entries. -/
@[mk_iff]
structure TargetSection.Written (s : TargetSection) (t : Table) : Prop where
  src : t.bare? "src" = s.src.map Patterns.toValue
  files : t.bare? "files" = s.files.map Patterns.toValue
  dest : t.bare? "dest" = s.dest.map fun p => .string p.text
  options : t.Under "options" s.options.Written

/-- A target is written in the entry of its name. -/
@[mk_iff]
structure TargetSection.WrittenAt (entry : String × Placed) (target : String × TargetSection) :
    Prop where
  name : target.1 = entry.1
  table : ∃ entries, entry.2.2 = .table entries ∧ target.2.Written entries

theorem TargetSection.names_of_writtenAt {entries : List (String × Placed)}
    {targets : List (String × TargetSection)}
    (h : List.Forall₂ TargetSection.WrittenAt entries targets) :
    targets.map Prod.fst = entries.map Prod.fst := by
  induction h with
  | nil => rfl
  | cons hentry _ ih => rw [List.map_cons, List.map_cons, hentry.name, ih]

/-- Targets that are written in entries of one table have names of their own. -/
theorem TargetSection.names_nodup_of_writtenAt {t : Table} (ht : (t.map Prod.fst).Nodup)
    {p : String × Placed → Bool} {targets : List (String × TargetSection)}
    (h : List.Forall₂ TargetSection.WrittenAt (t.filter p) targets) :
    (targets.map Prod.fst).Nodup := by
  rw [names_of_writtenAt h]
  exact ht.sublist (List.filter_sublist.map Prod.fst)

/-- The options and the targets are written in these entries, the targets in their order. -/
@[mk_iff]
structure BundleSection.Written (b : BundleSection) (t : Table) : Prop where
  options : t.Under "options" b.options.Written
  targets : List.Forall₂ TargetSection.WrittenAt
    (t.filter fun entry => entry.1 != "options") b.targets.entries

/-- The compress command is written in these entries. -/
def CompressSection.Written (s : CompressSection) (t : Table) : Prop :=
  t.bare? "command" = some (.ofStrings s.command)

/-- A configuration is written in these entries. -/
@[mk_iff]
structure Config.Written (c : Config) (t : Table) : Prop where
  bundle : t.Under "bundle" c.bundle.Written
  compress : Option.Rel (fun s v => ∃ entries, v.2 = .table entries ∧ s.Written entries)
    c.compress (t.get? "compress")
  baseDir : c.baseDir = ⟨""⟩

/-! ## What has the form of a configuration is one -/

/-- A list goes with another one by one exactly if there is something for each of its entries. -/
theorem exists_forall₂_iff {α β : Type} {related : α → β → Prop} {entries : List α} :
    (∃ others, List.Forall₂ related entries others) ↔ ∀ entry ∈ entries, ∃ b, related entry b := by
  induction entries with
  | nil => exact iff_of_true ⟨[], .nil⟩ (by simp)
  | cons entry rest ih =>
    rw [List.forall_mem_cons, ← ih]
    constructor
    · rintro ⟨_, _ | ⟨hentry, hrest⟩⟩
      exact ⟨⟨_, hentry⟩, _, hrest⟩
    · rintro ⟨⟨b, hentry⟩, others, hrest⟩
      exact ⟨b :: others, .cons hentry hrest⟩

namespace Form

variable {α : Type} {t : Table} {key : String} {v : Value}

theorem string_iff : string v = true ↔ ∃ text, v.bare = .string text := by
  simp only [Value.bare_eq_string_iff]
  cases v <;> simp [string]

theorem boolean_iff : boolean v = true ↔ ∃ b, v.bare = .boolean b := by
  simp only [Value.bare_eq_boolean_iff]
  cases v <;> simp [boolean]

theorem strings_iff : strings v = true ↔ ∃ texts, v.bare = .ofStrings texts := by
  simp only [Value.bare_eq_ofStrings_iff]
  cases v with
  | array items =>
    simp only [strings, List.all_eq_true, string_iff, Value.bare_eq_string_iff, Value.array.injEq,
      exists_eq_left']
    exact exists_forall₂_iff.symm
  | _ => simp [strings]

theorem patterns_iff : patterns v = true ↔ ∃ p : Patterns, v.bare = p.toValue := by
  rw [patterns, Bool.or_eq_true, string_iff, strings_iff]
  constructor
  · rintro (⟨pattern, h⟩ | ⟨patterns, h⟩)
    · exact ⟨.one pattern, h⟩
    · exact ⟨.many patterns, h⟩
  · rintro ⟨pattern | patterns, h⟩
    · exact .inl ⟨pattern, h⟩
    · exact .inr ⟨patterns, h⟩

/-- A value under a key has its form exactly if it is written there. -/
theorem holds_iff_written {form : Value → Bool} {write : α → Value}
    (h : ∀ v, form v = true ↔ ∃ a, v.bare = write a) :
    t.holds key form = true ↔ ∃ x : Option α, t.bare? key = x.map write := by
  rw [Table.holds_iff, Table.bare?]
  cases t.get? key with
  | none => exact iff_of_true (by simp) ⟨none, rfl⟩
  | some v =>
    constructor
    · intro hv
      obtain ⟨a, ha⟩ := (h v.2).mp (hv v rfl)
      exact ⟨some a, congrArg some ha⟩
    · rintro ⟨_ | a, ha⟩ _ ⟨⟩
      · cases ha
      · exact (h v.2).mpr ⟨a, Option.some.inj ha⟩

theorem table_iff {form : Table → Bool} :
    table form v = true ↔ ∃ entries, v = .table entries ∧ form entries = true := by
  cases v <;> simp [table]

/-- A section under a key has its form exactly if it is written there. -/
theorem holds_table_iff {form : Table → Bool} {written : α → Table → Prop}
    (h : form (t.inner key) = true ↔ ∃ a, written a (t.inner key)) (hnone : form [] = true) :
    t.holds key (table form) = true ↔ ∃ a, t.Under key (written a) := by
  rw [Table.holds_iff]
  unfold Table.inner at h
  cases hget : t.get? key with
  | none =>
    rw [hget] at h
    simp only [Table.under_of_none hget]
    exact iff_of_true (by simp) (h.mp hnone)
  | some v =>
    obtain ⟨place, v⟩ := v
    rw [hget] at h
    simp only [Table.under_of_some hget, Option.some.injEq, forall_eq', table_iff]
    constructor
    · rintro ⟨entries, rfl, hform⟩
      obtain ⟨a, ha⟩ := h.mp hform
      exact ⟨a, entries, rfl, ha⟩
    · rintro ⟨a, entries, rfl, ha⟩
      exact ⟨entries, rfl, h.mpr ⟨a, ha⟩⟩

theorem options_iff : options t = true ↔ ∃ o : Overrides, o.Written t := by
  simp only [options, Bool.and_eq_true, List.all_cons, List.all_nil, Bool.and_true,
    holds_iff_written @string_iff, holds_iff_written @boolean_iff]
  constructor
  · rintro ⟨⟨⟨root, hroot⟩, ⟨token, htoken⟩, name, hname⟩, ⟨only, honly⟩, adds, hadds⟩
    exact ⟨⟨root, token, only, name, adds⟩, hroot, htoken, honly, hname, hadds⟩
  · rintro ⟨o, h⟩
    exact ⟨⟨⟨_, h.root⟩, ⟨_, h.definitionToken⟩, _, h.varName⟩, ⟨_, h.concatenateOnly⟩, _,
      h.addCompressTargets⟩

theorem target_iff : target t = true ↔ ∃ s : TargetSection, s.Written t := by
  have hpath (v : Value) : string v = true ↔ ∃ p : Path, v.bare = .string p.text :=
    string_iff.trans ⟨fun ⟨text, h⟩ => ⟨⟨text⟩, h⟩, fun ⟨p, h⟩ => ⟨p.text, h⟩⟩
  simp only [target, Bool.and_eq_true, holds_iff_written @patterns_iff, holds_iff_written hpath,
    holds_table_iff options_iff rfl]
  constructor
  · rintro ⟨⟨⟨⟨src, hsrc⟩, files, hfiles⟩, dest, hdest⟩, o, ho⟩
    exact ⟨⟨src, files, dest, o⟩, hsrc, hfiles, hdest, ho⟩
  · rintro ⟨s, h⟩
    exact ⟨⟨⟨⟨_, h.src⟩, _, h.files⟩, _, h.dest⟩, _, h.options⟩

theorem table_target_iff {entry : String × Placed} :
    table target entry.2.2 = true ↔ ∃ target, TargetSection.WrittenAt entry target := by
  simp only [table_iff, target_iff]
  constructor
  · rintro ⟨entries, hentry, s, hs⟩
    exact ⟨(entry.1, s), rfl, entries, hentry, hs⟩
  · rintro ⟨target, -, entries, hentry, hs⟩
    exact ⟨entries, hentry, target.2, hs⟩

theorem bundle_iff (ht : (t.map Prod.fst).Nodup) :
    bundle t = true ↔ ∃ b : BundleSection, b.Written t := by
  simp only [bundle, Bool.and_eq_true, holds_table_iff options_iff rfl, List.all_eq_true,
    table_target_iff, ← exists_forall₂_iff]
  constructor
  · rintro ⟨⟨o, ho⟩, targets, htargets⟩
    exact ⟨⟨o, targets, TargetSection.names_nodup_of_writtenAt ht htargets⟩, ho, htargets⟩
  · rintro ⟨b, h⟩
    exact ⟨⟨_, h.options⟩, _, h.targets⟩

theorem compress_iff : compress t = true ↔ ∃ s : CompressSection, s.Written t := by
  unfold compress CompressSection.Written Table.bare?
  cases t.get? "command" with
  | none => simp
  | some v =>
    simp only [Option.any_some, strings_iff, Option.map_some, Option.some.injEq]
    exact ⟨fun ⟨texts, h⟩ => ⟨⟨texts⟩, h⟩, fun ⟨s, h⟩ => ⟨s.command, h⟩⟩

theorem holds_compress_iff : t.holds "compress" (table compress) = true ↔
    ∃ x : Option CompressSection, Option.Rel
      (fun s v => ∃ entries, v.2 = .table entries ∧ s.Written entries) x (t.get? "compress") := by
  rw [Table.holds_iff]
  cases t.get? "compress" with
  | none => exact iff_of_true (by simp) ⟨none, .none⟩
  | some v =>
    constructor
    · intro hv
      obtain ⟨entries, hentries, hform⟩ := table_iff.mp (hv v rfl)
      obtain ⟨s, hs⟩ := compress_iff.mp hform
      exact ⟨some s, .some ⟨entries, hentries, hs⟩⟩
    · rintro ⟨_, ⟨entries, hentries, hs⟩⟩ _ ⟨⟩
      exact table_iff.mpr ⟨entries, hentries, compress_iff.mpr ⟨_, hs⟩⟩

theorem config_iff (ht : t.Distinct) : config t = true ↔ ∃ c : Config, c.Written t := by
  have hbundle := (Table.distinct_iff.mp (ht.inner "bundle")).1
  rw [config, Bool.and_eq_true, holds_table_iff (bundle_iff hbundle) rfl, holds_compress_iff]
  constructor
  · rintro ⟨⟨b, hb⟩, x, hx⟩
    exact ⟨⟨b, x, ⟨""⟩⟩, hb, hx, rfl⟩
  · rintro ⟨c, h⟩
    exact ⟨⟨_, h.bundle⟩, _, h.compress⟩

end Form

end ModuleBundler
