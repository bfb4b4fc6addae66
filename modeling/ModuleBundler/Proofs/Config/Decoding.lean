/-
# ModuleBundler.Proofs.Config.Decoding -- decoding gives what is written

What is decoded from the data of a document is the configuration that is written there
(`Decode.config_eq_ok_iff`), for all data in which no section is an array or a date
(`Plain.config`). Those two are read as sections as well: an array as one without the names of
its entries, and a date as one without any entry that means something.

What is checked is every entry as it comes, and what is read is found under its key. The two
are about the same values because no table holds a key twice.
-/

import ModuleBundler.Config.Decode
import ModuleBundler.Proofs.Config.Layers
import ModuleBundler.Proofs.Config.Written

namespace ModuleBundler

open Toml (Value Placed Table)

/-! ## Documents without arrays and dates as sections -/

namespace Plain

/-- A value in place of a section, unless it is one of those that are read as sections besides
tables. -/
def value : Value → Bool
  | .array _ | .dateTime _ => false
  | _ => true

/-- The same for a section that has sections inside. -/
def above (inside : Table → Bool) : Value → Bool
  | .table entries => inside entries
  | v => value v

/-- The section of a target, and that of its options. -/
def target : Value → Bool :=
  above fun t => t.holds "options" value

/-- The section of the global options and the targets, and all sections inside. -/
def bundle : Value → Bool :=
  above fun t => t.holds "options" value &&
    (t.filter fun entry => entry.1 != "options").all fun entry => target entry.2.2

/-- All sections of a document. -/
def config (t : Table) : Bool :=
  t.holds "bundle" bundle && t.holds "compress" value

theorem value_of_above {inside : Table → Bool} {v : Value} (h : above inside v = true) :
    value v = true := by
  cases v <;> first | rfl | exact h

end Plain

/-! ## What is read is what is written -/

namespace Decode

variable {α : Type} {t : Table} {v : Placed} {key : String}

/-! ### Values -/

theorem string_eq_ok_iff {text : String} : string v = .ok text ↔ v.2.bare = .string text := by
  rw [Value.bare_eq_string_iff]
  obtain ⟨place, v⟩ := v
  cases v <;> simp [string, refuse]

theorem boolean_eq_ok_iff {b : Bool} : boolean v = .ok b ↔ v.2.bare = .boolean b := by
  rw [Value.bare_eq_boolean_iff]
  obtain ⟨place, v⟩ := v
  cases v <;> simp [boolean, refuse]

theorem path_eq_ok_iff {p : Path} : path v = .ok p ↔ v.2.bare = .string p.text := by
  rw [Value.bare_eq_string_iff]
  obtain ⟨place, v⟩ := v
  obtain ⟨text⟩ := p
  cases v <;> simp [path, refuse]

theorem mapM_string_eq_ok_iff {items : List Placed} {texts : List String} :
    items.mapM string = .ok texts ↔ (Value.array items).bare = .ofStrings texts := by
  simp only [Job.mapM_eq_ok_iff, string_eq_ok_iff, Value.bare_eq_ofStrings_iff,
    Value.bare_eq_string_iff, Value.array.injEq, exists_eq_left']

theorem strings_eq_ok_iff {texts : List String} :
    strings v = .ok texts ↔ v.2.bare = .ofStrings texts := by
  obtain ⟨place, v⟩ := v
  cases v with
  | array items => exact mapM_string_eq_ok_iff
  | _ => simp [strings, refuse, Value.bare, Value.ofStrings]

theorem patterns_eq_ok_iff {p : Patterns} : patterns v = .ok p ↔ v.2.bare = p.toValue := by
  obtain ⟨place, v⟩ := v
  cases v with
  | array items =>
    rw [patterns]
    cases p with
    | one pattern =>
      cases items.mapM string <;> simp [patterns.refusePatterns, Value.bare, Patterns.toValue]
    | many texts =>
      rw [Patterns.toValue, ← mapM_string_eq_ok_iff]
      cases items.mapM string <;> simp [patterns.refusePatterns]
  | _ => cases p <;>
    simp [patterns, patterns.refusePatterns, Value.bare, Patterns.toValue, Value.ofStrings]

/-! ### Entries -/

/-- What stands under a key, if anything does, can be decoded. -/
def Takes (t : Table) (key : String) (decode : Placed → Result α) : Prop :=
  ∀ v, t.get? key = some v → ∃ a, decode v = .ok a

theorem discard_eq_ok_iff {outcome : Result α} :
    (discard outcome : Result Unit) = .ok () ↔ ∃ a, outcome = .ok a := by
  cases outcome <;> simp [discard, Functor.discard, Functor.mapConst, Except.map]

/-- Every entry passes a check exactly if what stands under any key does. -/
theorem checkAll_eq_ok_iff (ht : t.Distinct) {check : String → Placed → Result Unit} :
    checkAll t check = .ok () ↔ ∀ key v, t.get? key = some v → check key v = .ok () := by
  rw [checkAll, Job.forM_eq_ok_iff]
  constructor
  · exact fun h key v hget => h (key, v) (Table.mem_of_get? hget)
  · exact fun h entry hentry => h entry.1 entry.2 (ht.get?_eq_some_iff.mpr hentry)

/-- What can be decoded under a key is what is read from there. -/
theorem takes_and_field_eq_iff {decode : Placed → Result α} {x : Option α} :
    (Takes t key decode ∧ field t key decode = x) ↔
      Option.Rel (fun a v => decode v = .ok a) x (t.get? key) := by
  unfold Takes field
  cases t.get? key with
  | none => cases x <;> simp
  | some v =>
    simp only [Option.some.injEq, forall_eq', Option.bind_some]
    cases hread : decode v <;> cases x <;> simp [hread, Except.toOption]

/-- A value that is read from under a key is written there. -/
theorem takes_and_field_iff {decode : Placed → Result α} {write : α → Value} {x : Option α}
    (h : ∀ v a, decode v = .ok a ↔ v.2.bare = write a) :
    (Takes t key decode ∧ field t key decode = x) ↔ t.bare? key = x.map write := by
  rw [takes_and_field_eq_iff, Table.bare?]
  cases t.get? key <;> cases x <;> simp [h]

/-- The same for a section, which is empty where it is missing. -/
theorem takes_and_section_iff {decode : Placed → Result α} {written : α → Table → Prop}
    {default a : α} (hnone : written a [] ↔ default = a)
    (h : ∀ v, t.get? key = some v → ∀ a, decode v = .ok a ↔
      ∃ entries, v.2 = .table entries ∧ written a entries) :
    (Takes t key decode ∧ (field t key decode).getD default = a) ↔ t.Under key (written a) := by
  unfold Takes field
  cases hget : t.get? key with
  | none =>
    rw [Table.under_of_none hget, hnone]
    simp
  | some v =>
    rw [Table.under_of_some hget, ← h v hget]
    simp only [Option.some.injEq, forall_eq', Option.bind_some]
    cases decode v <;> simp [Except.toOption]

/-! ### Sections -/

/-- What stands in place of a section and is read as one is a table. -/
theorem entries_eq_ok_iff (hv : Plain.value v.2 = true) (title : String) (names : List String) :
    entries title names v = .ok t ↔ v.2 = .table t := by
  obtain ⟨place, v⟩ := v
  cases v with
  | array items => cases hv
  | dateTime d => cases hv
  | _ => simp [entries, refuse]

theorem section_eq_ok_iff (hv : Plain.value v.2 = true) {title : String} {names : List String}
    {read : Table → Result α} {a : α} :
    (entries title names v >>= read) = .ok a ↔ ∃ t, v.2 = .table t ∧ read t = .ok a := by
  constructor
  · intro h
    obtain ⟨t, ht, h⟩ := Job.exists_of_bind_eq_ok h
    exact ⟨t, (entries_eq_ok_iff hv title names).mp ht, h⟩
  · rintro ⟨t, ht, h⟩
    rw [(entries_eq_ok_iff hv title names).mpr ht]
    exact h

/-- Only an array can be too long. -/
theorem checkLength_table (hv : v.2 = .table t) (names : List String) :
    checkLength names v = .ok () := by
  obtain ⟨place, v⟩ := v
  cases hv
  rfl

theorem checkAll_bind_eq_ok_iff {check : String → Placed → Result Unit} {read a : α} :
    (checkAll t check >>= fun _ => pure read) = .ok a ↔ checkAll t check = .ok () ∧ read = a := by
  cases checkAll t check <;> simp [bind, Except.bind, pure, Except.pure]

theorem overrides_checkAll_iff (ht : t.Distinct) :
    checkAll t overrides.check = .ok () ↔
      Takes t "root" string ∧ Takes t "definition_token" string ∧
      Takes t "concatenate_only" boolean ∧ Takes t "var_name" string ∧
      Takes t "add_compress_targets" boolean := by
  rw [checkAll_eq_ok_iff ht]
  constructor
  · intro h
    refine ⟨fun v hv => ?_, fun v hv => ?_, fun v hv => ?_, fun v hv => ?_, fun v hv => ?_⟩ <;>
    exact discard_eq_ok_iff.mp (h _ v hv)
  · rintro ⟨hroot, htoken, honly, hname, hadds⟩ key v hv
    simp only [overrides.check, Bool.or_eq_true, decide_eq_true_eq]
    split_ifs with hstring hboolean
    · obtain (rfl | rfl) | rfl := hstring
      · exact discard_eq_ok_iff.mpr (hroot v hv)
      · exact discard_eq_ok_iff.mpr (htoken v hv)
      · exact discard_eq_ok_iff.mpr (hname v hv)
    · obtain rfl | rfl := hboolean
      · exact discard_eq_ok_iff.mpr (honly v hv)
      · exact discard_eq_ok_iff.mpr (hadds v hv)
    · rfl

theorem overrides_eq_ok_iff (hv : Plain.value v.2 = true) (hdistinct : v.2.Distinct)
    (exactly : Bool) {o : Overrides} :
    overrides exactly v = .ok o ↔ ∃ t, v.2 = .table t ∧ o.Written t := by
  rw [overrides, section_eq_ok_iff hv]
  refine exists_congr fun t => and_congr_right fun hvt => ?_
  rw [hvt] at hdistinct
  rw [checkLength_table hvt]
  have hchecked : checkAll t overrides.check = .ok () ∧
      ({ root := field t "root" string
         definitionToken := field t "definition_token" string
         concatenateOnly := field t "concatenate_only" boolean
         varName := field t "var_name" string
         addCompressTargets := field t "add_compress_targets" boolean } : Overrides) = o ↔
      o.Written t := by
    -- Option by option, what can be decoded and what is read make up what is written.
    obtain ⟨root, token, only, name, adds⟩ := o
    rw [overrides_checkAll_iff hdistinct, Overrides.mk.injEq, Overrides.written_iff]
    simp only [← takes_and_field_iff @string_eq_ok_iff, ← takes_and_field_iff @boolean_eq_ok_iff]
    tauto
  cases exactly <;> exact checkAll_bind_eq_ok_iff.trans hchecked

theorem target_checkAll_iff (ht : t.Distinct) :
    checkAll t target.check = .ok () ↔
      Takes t "src" patterns ∧ Takes t "files" patterns ∧ Takes t "dest" path ∧
      Takes t "options" (overrides true) := by
  rw [checkAll_eq_ok_iff ht]
  constructor
  · intro h
    refine ⟨fun v hv => ?_, fun v hv => ?_, fun v hv => ?_, fun v hv => ?_⟩ <;>
    exact discard_eq_ok_iff.mp (h _ v hv)
  · rintro ⟨hsrc, hfiles, hdest, hoptions⟩ key v hv
    simp only [target.check, Bool.or_eq_true, decide_eq_true_eq]
    split_ifs with hpatterns hpath hsection
    · obtain rfl | rfl := hpatterns
      · exact discard_eq_ok_iff.mpr (hsrc v hv)
      · exact discard_eq_ok_iff.mpr (hfiles v hv)
    · obtain rfl := hpath
      exact discard_eq_ok_iff.mpr (hdest v hv)
    · obtain rfl := hsection
      exact discard_eq_ok_iff.mpr (hoptions v hv)
    · rfl

/-- Without entries, no option is set. -/
theorem overrides_written_nil_iff {o : Overrides} : o.Written [] ↔ {} = o := by
  constructor
  · intro h
    obtain ⟨root, token, only, name, adds⟩ := o
    have hunset {α : Type} {write : α → Value} {x : Option α} (h : none = x.map write) :
        none = x := (Option.map_eq_none_iff.mp h.symm).symm
    obtain rfl := hunset h.root
    obtain rfl := hunset h.definitionToken
    obtain rfl := hunset h.concatenateOnly
    obtain rfl := hunset h.varName
    obtain rfl := hunset h.addCompressTargets
    rfl
  · rintro rfl
    exact ⟨rfl, rfl, rfl, rfl, rfl⟩

/-- The options of a target or of all of them are read where they are written. -/
theorem takes_and_overrides_iff (hdistinct : t.Distinct) (hplain : t.holds key Plain.value = true)
    (exactly : Bool) {o : Overrides} :
    (Takes t key (overrides exactly) ∧ (field t key (overrides exactly)).getD {} = o) ↔
      t.Under key o.Written :=
  takes_and_section_iff overrides_written_nil_iff fun v hv _ =>
    overrides_eq_ok_iff (Table.holds_iff.mp hplain v hv) (hdistinct.value hv) exactly

theorem target_eq_ok_iff (hv : Plain.target v.2 = true) (hdistinct : v.2.Distinct)
    {s : TargetSection} : target v = .ok s ↔ ∃ t, v.2 = .table t ∧ s.Written t := by
  rw [target, section_eq_ok_iff (Plain.value_of_above hv)]
  refine exists_congr fun t => and_congr_right fun hvt => ?_
  rw [hvt] at hdistinct hv
  rw [checkLength_table hvt]
  refine Iff.trans checkAll_bind_eq_ok_iff ?_
  obtain ⟨src, files, dest, o⟩ := s
  rw [target_checkAll_iff hdistinct, TargetSection.mk.injEq, TargetSection.written_iff]
  simp only [← takes_and_field_iff @patterns_eq_ok_iff, ← takes_and_field_iff @path_eq_ok_iff,
    ← takes_and_overrides_iff hdistinct hv true]
  tauto

theorem named_eq_ok_iff {entry : String × Placed} (hv : Plain.target entry.2.2 = true)
    (hdistinct : entry.2.2.Distinct) {declared : String × TargetSection} :
    bundle.named entry = .ok declared ↔ TargetSection.WrittenAt entry declared := by
  constructor
  · intro h
    obtain ⟨s, hs, h⟩ := Job.exists_of_bind_eq_ok h
    cases h
    exact ⟨rfl, (target_eq_ok_iff hv hdistinct).mp hs⟩
  · rintro ⟨hname, hs⟩
    rw [bundle.named, (target_eq_ok_iff hv hdistinct).mpr hs, ← hname]
    rfl

theorem targets_eq_ok_iff {entries : List (String × Placed)}
    (hplain : ∀ entry ∈ entries, Plain.target entry.2.2 = true)
    (hdistinct : ∀ entry ∈ entries, entry.2.2.Distinct) {targets : List (String × TargetSection)}
    {failed : Toml.Error → Toml.Error} :
    (entries.mapM bundle.named).mapError failed = .ok targets ↔
      List.Forall₂ TargetSection.WrittenAt entries targets := by
  have hall : ∀ entry ∈ entries, Plain.target entry.2.2 = true ∧ entry.2.2.Distinct :=
    fun entry hentry => ⟨hplain entry hentry, hdistinct entry hentry⟩
  have hmapError : (entries.mapM bundle.named).mapError failed = .ok targets ↔
      entries.mapM bundle.named = .ok targets := by
    cases entries.mapM bundle.named <;> simp [Except.mapError]
  rw [hmapError, Job.mapM_eq_ok_iff]
  constructor <;> intro h <;> refine ((List.forall₂_and_left _ _).mpr ⟨hall, h⟩).imp ?_
  · exact fun entry target h => (named_eq_ok_iff h.1.1 h.1.2).mp h.2
  · exact fun entry target h => (named_eq_ok_iff h.1.1 h.1.2).mpr h.2

/-- A section that may be missing is read where there is one. -/
theorem mapM_get?_eq_ok_iff {decode : Placed → Result α} {x : Option α} :
    (t.get? key).mapM decode = .ok x ↔ Takes t key decode ∧ field t key decode = x := by
  unfold Takes field
  cases t.get? key with
  | none => simp [pure, Except.pure]
  | some v =>
    rw [Option.mapM_some]
    simp only [Option.some.injEq, forall_eq', Option.bind_some]
    cases decode v <;> simp [Functor.map, Except.map, Except.toOption]

theorem bundle_table_eq_ok_iff {place : Toml.Span} (hdistinct : t.Distinct)
    (hoptions : t.holds "options" Plain.value = true)
    (htargets : ∀ entry ∈ t.filter fun entry => entry.1 != "options",
      Plain.target entry.2.2 = true) {b : BundleSection} :
    bundle (place, .table t) = .ok b ↔ b.Written t := by
  have ho {o : Overrides} := takes_and_overrides_iff hdistinct hoptions false (o := o)
  have ht {targets : List (String × TargetSection)} {failed : Toml.Error → Toml.Error} :
      ((t.filter fun entry => entry.1 != "options").mapM bundle.named).mapError failed =
          .ok targets ↔
        List.Forall₂ TargetSection.WrittenAt (t.filter fun entry => entry.1 != "options") targets :=
    targets_eq_ok_iff htargets fun entry hentry =>
      (Table.distinct_iff.mp hdistinct).2 entry (List.mem_filter.mp hentry).1
  -- The names are those of entries of one table, so that no target replaces another.
  have hfresh {targets : List (String × TargetSection)}
      (h : List.Forall₂ TargetSection.WrittenAt (t.filter fun entry => entry.1 != "options")
        targets) : (targets : Targets).entries = targets := by
    apply Targets.entries_ofList
    exact TargetSection.names_nodup_of_writtenAt (Table.distinct_iff.mp hdistinct).1 h
  rw [bundle]
  constructor
  · intro h
    obtain ⟨_, hentries, h⟩ := Job.exists_of_bind_eq_ok h
    cases hentries
    obtain ⟨options, hread, h⟩ := Job.exists_of_bind_eq_ok h
    obtain ⟨targets, htargets, h⟩ := Job.exists_of_bind_eq_ok h
    cases h
    obtain ⟨htakes, rfl⟩ := mapM_get?_eq_ok_iff.mp hread
    have hwritten := ht.mp htargets
    refine ⟨ho.mp ⟨htakes, rfl⟩, ?_⟩
    show List.Forall₂ _ _ (targets : Targets).entries
    rw [hfresh hwritten]
    exact hwritten
  · rintro ⟨hwritten, htargets⟩
    obtain ⟨htakes, hread⟩ := ho.mpr hwritten
    refine Job.bind_eq_ok_iff.mpr ⟨t, rfl, Job.bind_eq_ok_iff.mpr ⟨_, mapM_get?_eq_ok_iff.mpr
      ⟨htakes, rfl⟩, Job.bind_eq_ok_iff.mpr ⟨_, ht.mpr htargets, ?_⟩⟩⟩
    have hsame : (b.targets.entries : Targets) = b.targets := Targets.ext (hfresh htargets)
    rw [hsame]
    change Except.ok { b with options := (field t "options" (overrides false)).getD {} } = .ok b
    rw [hread]

theorem bundle_eq_ok_iff (hv : Plain.bundle v.2 = true) (hdistinct : v.2.Distinct)
    {b : BundleSection} : bundle v = .ok b ↔ ∃ t, v.2 = .table t ∧ b.Written t := by
  obtain ⟨place, v⟩ := v
  cases v with
  | table t =>
    obtain ⟨hoptions, htargets⟩ := (Bool.and_eq_true _ _).mp hv
    rw [bundle_table_eq_ok_iff hdistinct hoptions (List.all_eq_true.mp htargets)]
    simp
  | array items => cases hv
  | dateTime d => cases hv
  | _ => simp [bundle, entries, refuse, bind, Except.bind]

theorem compress_eq_ok_iff (hv : Plain.value v.2 = true) {s : CompressSection} :
    compress v = .ok s ↔ ∃ t, v.2 = .table t ∧ s.Written t := by
  rw [compress, section_eq_ok_iff hv]
  refine exists_congr fun t => and_congr_right fun hvt => ?_
  rw [hvt]
  unfold CompressSection.Written Table.bare?
  cases Table.get? t "command" with
  | none => simp
  | some command =>
    rw [Option.map_some, Option.some.injEq, ← strings_eq_ok_iff]
    change (strings command >>= fun texts => pure ⟨texts⟩) = .ok s ↔ _
    rw [Job.bind_eq_ok_iff]
    constructor
    · rintro ⟨texts, htexts, h⟩
      cases h
      exact htexts
    · exact fun htexts => ⟨s.command, htexts, rfl⟩

theorem config_checkAll_iff (ht : t.Distinct) :
    checkAll t config.check = .ok () ↔ Takes t "bundle" bundle ∧ Takes t "compress" compress := by
  rw [checkAll_eq_ok_iff ht]
  constructor
  · intro h
    exact ⟨fun v hv => discard_eq_ok_iff.mp (h _ v hv), fun v hv => discard_eq_ok_iff.mp (h _ v hv)⟩
  · rintro ⟨hbundle, hcompress⟩ key v hv
    rw [config.check]
    split_ifs with hb hc
    · obtain rfl := hb
      exact discard_eq_ok_iff.mpr (hbundle v hv)
    · obtain rfl := hc
      exact discard_eq_ok_iff.mpr (hcompress v hv)
    · rfl

/-- Without entries, there are neither options nor targets. -/
theorem bundle_written_nil_iff {b : BundleSection} : b.Written [] ↔ {} = b := by
  constructor
  · intro h
    obtain ⟨options, targets⟩ := b
    obtain rfl := overrides_written_nil_iff.mp h.options
    have hnone : targets.entries = [] := List.forall₂_nil_left_iff.mp h.targets
    have hempty : targets = .empty := Targets.ext hnone
    rw [hempty]
  · rintro rfl
    exact ⟨overrides_written_nil_iff.mpr rfl, .nil⟩

theorem config_eq_ok_iff (hdistinct : t.Distinct) (hplain : Plain.config t = true) {c : Config} :
    config t = .ok c ↔ c.Written t := by
  obtain ⟨hbundle, hcompress⟩ := (Bool.and_eq_true _ _).mp hplain
  have hb {b : BundleSection} :
      (Takes t "bundle" bundle ∧ (field t "bundle" bundle).getD {} = b) ↔
        t.Under "bundle" b.Written :=
    takes_and_section_iff bundle_written_nil_iff fun w hw _ =>
      bundle_eq_ok_iff (Table.holds_iff.mp hbundle w hw) (hdistinct.value hw)
  have hc {x : Option CompressSection} :
      (Takes t "compress" compress ∧ field t "compress" compress = x) ↔ Option.Rel
        (fun s v => ∃ entries, v.2 = .table entries ∧ s.Written entries) x (t.get? "compress") := by
    rw [takes_and_field_eq_iff]
    cases hget : t.get? "compress" with
    | none => cases x <;> simp
    | some v =>
      cases x with
      | none => simp
      | some s =>
        simp only [Option.rel_some_some]
        exact compress_eq_ok_iff (Table.holds_iff.mp hcompress v hget)
  refine checkAll_bind_eq_ok_iff.trans ?_
  obtain ⟨b, x, baseDir⟩ := c
  rw [config_checkAll_iff hdistinct, Config.mk.injEq, Config.written_iff, ← hb, ← hc,
    @eq_comm _ baseDir]
  tauto

end Decode

end ModuleBundler
