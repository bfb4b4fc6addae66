/-
# ModuleBundler.Proofs.Config.Document -- configurations as documents

Main statement: `ofText_describes`. A document is a configuration exactly if it has the form of
one, and then it is the one that is written there, its targets in their order. What stands under
keys that mean nothing, in a section or beside all of them, makes no difference: two documents
with the same under all other keys (`Alike.Config`) are the same configuration, or none.

All of this is about documents in which no section is an array or a date (`Plain.config`).
-/

import ModuleBundler.Proofs.Config.Decoding

namespace ModuleBundler

open Toml (Value Placed Table)

/-! ## Documents that are alike -/

namespace Alike

/-- Two sections are alike: their entries are, or neither of the two is a table. -/
inductive Section (alike : Table → Table → Prop) : Placed → Placed → Prop
  | tables {place place' : Toml.Span} {entries entries' : Table} : alike entries entries' →
      Section alike (place, .table entries) (place', .table entries')
  | others {v v' : Placed} : (∀ entries, v.2 ≠ .table entries) →
      (∀ entries, v'.2 ≠ .table entries) → Section alike v v'

/-- Options are alike: each of them has the same value. -/
def options (t t' : Table) : Prop :=
  ∀ key ∈ Decode.optionNames, t.bare? key = t'.bare? key

/-- The sections of two targets are alike. -/
structure Target (t t' : Table) : Prop where
  values : ∀ key ∈ ["src", "files", "dest"], t.bare? key = t'.bare? key
  options : Option.Rel (Section options) (t.get? "options") (t'.get? "options")

/-- The sections of the global options and the targets are alike: the options are, and the
targets are in their order. -/
structure Bundle (t t' : Table) : Prop where
  options : Option.Rel (Section options) (t.get? "options") (t'.get? "options")
  targets : List.Forall₂ (fun entry entry' => entry.1 = entry'.1 ∧ Section Target entry.2 entry'.2)
    (t.filter fun entry => entry.1 != "options") (t'.filter fun entry => entry.1 != "options")

/-- The sections of the compress command are alike. -/
def compress (t t' : Table) : Prop :=
  t.bare? "command" = t'.bare? "command"

/-- Two documents are alike: the same stands under all keys that mean something, whatever stands
under others. -/
structure Config (t t' : Table) : Prop where
  bundle : Option.Rel (Section Bundle) (t.get? "bundle") (t'.get? "bundle")
  compress : Option.Rel (Section compress) (t.get? "compress") (t'.get? "compress")

/-! ## What is alike is the same configuration -/

variable {t t' : Table} {key : String}

theorem Section.exists_iff {alike : Table → Table → Prop} {p : Table → Prop} {v v' : Placed}
    (h : Section alike v v') (hp : ∀ t t', alike t t' → (p t ↔ p t')) :
    (∃ entries, v.2 = .table entries ∧ p entries) ↔
      ∃ entries, v'.2 = .table entries ∧ p entries := by
  cases h with
  | tables halike => simpa using hp _ _ halike
  | others hv hv' => simp [hv, hv']

theorem under_iff {alike : Table → Table → Prop} {p : Table → Prop}
    (h : Option.Rel (Section alike) (t.get? key) (t'.get? key))
    (hp : ∀ t t', alike t t' → (p t ↔ p t')) : t.Under key p ↔ t'.Under key p := by
  cases hget : t.get? key <;> cases hget' : t'.get? key <;> rw [hget, hget'] at h
  · rw [Table.under_of_none hget, Table.under_of_none hget']
  · cases h
  · cases h
  · rw [Option.rel_some_some] at h
    rw [Table.under_of_some hget, Table.under_of_some hget', h.exists_iff hp]

theorem overrides_written_iff {o : Overrides} (t t' : Table) (h : options t t') :
    o.Written t ↔ o.Written t' := by
  simp only [options, Decode.optionNames, List.forall_mem_cons] at h
  obtain ⟨hroot, htoken, honly, hname, hadds, -⟩ := h
  rw [Overrides.written_iff, Overrides.written_iff, hroot, htoken, honly, hname, hadds]

theorem target_written_iff {s : TargetSection} (t t' : Table) (h : Target t t') :
    s.Written t ↔ s.Written t' := by
  have hvalues := h.values
  simp only [List.forall_mem_cons] at hvalues
  obtain ⟨hsrc, hfiles, hdest, -⟩ := hvalues
  rw [TargetSection.written_iff, TargetSection.written_iff, hsrc, hfiles, hdest,
    under_iff h.options overrides_written_iff]

theorem targets_written_iff {entries entries' : List (String × Placed)}
    (h : List.Forall₂ (fun entry entry' => entry.1 = entry'.1 ∧ Section Target entry.2 entry'.2)
      entries entries') {targets : List (String × TargetSection)} :
    List.Forall₂ TargetSection.WrittenAt entries targets ↔
      List.Forall₂ TargetSection.WrittenAt entries' targets := by
  induction h generalizing targets with
  | nil => rfl
  | cons hentry _ ih =>
    simp only [List.forall₂_cons_left_iff, ih, TargetSection.writtenAt_iff, hentry.1,
      hentry.2.exists_iff target_written_iff]

theorem bundle_written_iff {b : BundleSection} (t t' : Table) (h : Bundle t t') :
    b.Written t ↔ b.Written t' := by
  rw [BundleSection.written_iff, BundleSection.written_iff,
    under_iff h.options overrides_written_iff, targets_written_iff h.targets]

theorem compress_written_iff {x : Option CompressSection} {found found' : Option Placed}
    (h : Option.Rel (Section compress) found found') :
    Option.Rel (fun s v => ∃ t, v.2 = .table t ∧ CompressSection.Written s t) x found ↔
      Option.Rel (fun s v => ∃ t, v.2 = .table t ∧ CompressSection.Written s t) x found' := by
  cases h with
  | none => rfl
  | some h =>
    cases x with
    | none => simp
    | some s =>
      rw [Option.rel_some_some, Option.rel_some_some]
      exact h.exists_iff fun t t' h => by rw [CompressSection.Written, CompressSection.Written, h]

theorem config_written_iff {c : ModuleBundler.Config} (h : Config t t') :
    c.Written t ↔ c.Written t' := by
  rw [Config.written_iff, Config.written_iff, under_iff h.bundle bundle_written_iff,
    compress_written_iff h.compress]

end Alike

/-! ## Reading a document -/

theorem Patterns.toValue_injective : Function.Injective Patterns.toValue := by
  intro p p' h
  cases p <;> cases p'
  · rw [Value.string.inj h]
  · cases h
  · cases h
  · rw [Value.ofStrings_injective h]

/-- The patterns of a target are those under `src`, also where these are none, and those under
`files` only where there is no `src`. -/
structure TargetSection.PatternsIn (s : TargetSection) (t : Table) : Prop where
  src : ∀ p : Patterns, t.bare? "src" = some p.toValue → s.patterns = p.toList
  files : t.bare? "src" = none → ∀ p : Patterns, t.bare? "files" = some p.toValue →
    s.patterns = p.toList
  neither : t.bare? "src" = none → t.bare? "files" = none → s.patterns = []

theorem TargetSection.Written.patternsIn {s : TargetSection} {t : Table} (h : s.Written t) :
    s.PatternsIn t := by
  have hwritten {x : Option Patterns} {p : Patterns} (h : x.map Patterns.toValue = some p.toValue) :
      x = some p := Option.map_injective Patterns.toValue_injective h
  have hmissing {x : Option Patterns} (h : x.map Patterns.toValue = none) : x = none :=
    Option.map_eq_none_iff.mp h
  refine ⟨fun p hp => ?_, fun hsrc p hp => ?_, fun hsrc hfiles => ?_⟩
  · rw [patterns, hwritten (h.src.symm.trans hp)]
    rfl
  · rw [patterns, hmissing (h.src.symm.trans hsrc), hwritten (h.files.symm.trans hp)]
    rfl
  · rw [patterns, hmissing (h.src.symm.trans hsrc), hmissing (h.files.symm.trans hfiles)]
    rfl

namespace Config

theorem ofText_eq_ok_iff {text : String} {t : Table} (hparse : Toml.parse text = .ok t)
    (hplain : Plain.config t = true) {c : Config} : ofText text = .ok c ↔ c.Written t := by
  rw [← Decode.config_eq_ok_iff (Toml.parse_distinct hparse) hplain, ofText, hparse,
    show (Except.ok t >>= Decode.config) = Decode.config t from rfl]
  cases Decode.config t <;> simp

/-- A document in which no section is an array or a date is a configuration exactly if it has
the form of one. Then the configuration is the one that is written there: its targets are the
entries of `bundle` other than `options`, once each and in their order, and the patterns of a
target are those under `src`, which may be none, and those under `files` where there is no such
key. Any other document that is alike under the keys that mean something, whatever it has under
others, is the same configuration. -/
theorem ofText_describes {text : String} {t : Table} (hparse : Toml.parse text = .ok t)
    (hplain : Plain.config t = true) :
    ((∃ c, ofText text = .ok c) ↔ Form.config t = true) ∧
    (∀ c, ofText text = .ok c →
      c.Written t ∧
      c.bundle.targets.map Prod.fst =
        ((t.inner "bundle").map Prod.fst).filter (fun name => name != "options") ∧
      (c.bundle.targets.map Prod.fst).Nodup ∧
      List.Forall₂
        (fun entry target => ∃ entries, entry.2.2 = .table entries ∧ target.2.PatternsIn entries)
        ((t.inner "bundle").filter fun entry => entry.1 != "options") c.bundle.targets.entries) ∧
    ∀ text' t', Toml.parse text' = .ok t' → Plain.config t' = true → Alike.Config t t' →
      ∀ c, ofText text' = .ok c ↔ ofText text = .ok c := by
  refine ⟨?_, fun c hc => ?_, fun text' t' hparse' hplain' halike c => ?_⟩
  · simp only [ofText_eq_ok_iff hparse hplain, Form.config_iff (Toml.parse_distinct hparse)]
  · have hwritten := (ofText_eq_ok_iff hparse hplain).mp hc
    have hbundle := hwritten.bundle.inner
    have hnames : c.bundle.targets.map Prod.fst =
        ((t.inner "bundle").map Prod.fst).filter (fun name => name != "options") := by
      rw [Targets.map_eq, TargetSection.names_of_writtenAt hbundle.targets, List.filter_map]
      rfl
    refine ⟨hwritten, hnames, c.bundle.targets.names_nodup,
      hbundle.targets.imp fun entry target hentry => ?_⟩
    obtain ⟨entries, hentries, hs⟩ := hentry.table
    exact ⟨entries, hentries, hs.patternsIn⟩
  · rw [ofText_eq_ok_iff hparse hplain, ofText_eq_ok_iff hparse' hplain',
      Alike.config_written_iff halike]

/-- A target whose list of sources is empty although it has files, and a key that means nothing
beside all sections and in that of the target. -/
theorem ofText_describes_noted :
    let text := "a=1\n[bundle.b]\nsrc=[]\nfiles=\"f\"\na=1\n"
    let text' := "[bundle.b]\nsrc=[]\nfiles=\"f\"\n"
    ∃ t t', Toml.parse text = .ok t ∧ Plain.config t = true ∧ Form.config t = true ∧
      Toml.parse text' = .ok t' ∧ Plain.config t' = true ∧ Alike.Config t t' ∧
      (∃ c, ofText text = .ok c ∧ c.bundle.targets.map Prod.fst = ["b"] ∧
        ∀ target ∈ c.bundle.targets, target.2.patterns = []) ∧
      ∀ c, ofText text' = .ok c ↔ ofText text = .ok c := by
  intro text text'
  let target : Table := [("src", ⟨17, 15⟩, .array []), ("files", ⟨8, 5⟩, .string "f"),
    ("a", ⟨2, 1⟩, .integer 1)]
  let target' : Table := [("src", ⟨13, 11⟩, .array []), ("files", ⟨4, 1⟩, .string "f")]
  let bundle : Table := [("b", ⟨32, 1⟩, .table target)]
  let bundle' : Table := [("b", ⟨28, 1⟩, .table target')]
  let t : Table := [("a", ⟨34, 33⟩, .integer 1), ("bundle", ⟨31, 25⟩, .table bundle)]
  let t' : Table := [("bundle", ⟨27, 21⟩, .table bundle')]
  obtain ⟨hparse, hparse'⟩ : Toml.parse text = .ok t ∧ Toml.parse text' = .ok t' :=
    ⟨Job.eq_ok_of_toOption_eq_some (by decide +kernel),
      Job.eq_ok_of_toOption_eq_some (by decide +kernel)⟩
  have hplain : Plain.config t = true := by decide +kernel
  have hplain' : Plain.config t' = true := by decide +kernel
  have hform : Form.config t = true := by decide +kernel
  have htarget : Alike.Target target target' := by
    constructor <;> simp [target, target', Table.bare?, Table.get?, Value.bare]
  have hbundle : Alike.Bundle bundle bundle' := by
    constructor <;> simp [bundle, bundle', Table.get?, Alike.Section.tables, htarget]
  have halike : Alike.Config t t' := by
    constructor <;> simp [t, t', Table.get?, Alike.Section.tables, hbundle]
  obtain ⟨hformed, hread, hsame⟩ := ofText_describes hparse hplain
  obtain ⟨c, hc⟩ := hformed.mpr hform
  obtain ⟨-, hnames, -, hpatterns⟩ := hread c hc
  have hentries : ((t.inner "bundle").filter fun entry => entry.1 != "options") = bundle := by
    simp [t, bundle, Table.inner, Table.get?]
  rw [hentries] at hpatterns
  obtain ⟨b, rest, ⟨_, ⟨⟩, hb⟩, hrest, htargets⟩ := List.forall₂_cons_left_iff.mp hpatterns
  refine ⟨t, t', hparse, hplain, hform, hparse', hplain', halike,
    ⟨c, hc, hnames.trans (by decide +kernel), ?_⟩, hsame text' t' hparse' hplain' halike⟩
  show ∀ target ∈ c.bundle.targets.entries, target.2.patterns = []
  rw [htargets, List.forall₂_nil_left_iff.mp hrest, List.forall_mem_singleton]
  exact hb.src (.many []) rfl

end Config

end ModuleBundler
