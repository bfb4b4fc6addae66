/-
# ModuleBundler.Proofs.Identifier -- the parts of a path that names a module

A path that names a module falls into what stands in front of the name, the name, and its
extension. `Parts` says which parts these are, without a search: the front ends where the root
ends for the first time, or the first `/` where no root is set, and the extension starts at the
last dot behind it. A path has such parts, and but one choice of them, exactly when it is named
(`ofPath_eq_ok_iff`, `Parts.unique`).

Under one root, the front of every path that starts with it is the root itself, so that name and
extension together tell such paths apart (`Parts.path_eq`). Main statement: `ofPath_decomposes`.
-/

import ModuleBundler.Proofs.Bundle.Collisions
import ModuleBundler.Proofs.Expansion.Meaning
import ModuleBundler.Proofs.Text.Occurrence

namespace ModuleBundler.Identifier

open Text (FirstBehind)

/-! ## Parts of a path -/

/-- What stands in front of the name in a path. -/
inductive Front : Option String → List Char → List Char → Prop
  /-- A root is set: everything up to the end of its first occurrence. -/
  | root {r : String} {path before : List Char} : r ≠ "" → FirstBehind r.toList before path →
      Front (some r) path (before ++ r.toList)
  /-- No root is set: everything up to the first `/`. -/
  | slash {root : Option String} {path before : List Char} : root.getD "" = "" →
      FirstBehind ['/'] before path → Front root path (before ++ ['/'])
  /-- No root is set, and there is no `/`. -/
  | nothing {root : Option String} {path : List Char} : root.getD "" = "" → '/' ∉ path →
      Front root path []

/-- What stands behind a name: the last dot of both and what follows it, or nothing. -/
inductive Extension : List Char → List Char → Prop
  | none {name : List Char} : '.' ∉ name → Extension name []
  | dot {name behind : List Char} : '.' ∉ behind → Extension name ('.' :: behind)

/-- A path falls into what stands in front of the name, the name, and its extension. -/
structure Parts (root : Option String) (path : String) (front : List Char) (id : Identifier)
    (extension : List Char) : Prop where
  starts : Front root path.toList front
  whole : path.toList = front ++ id.text.toList ++ extension
  ends : Extension id.text.toList extension

/-- A path whose name has this extension. -/
def HasExtension (root : Option String) (path : String) (extension : List Char) : Prop :=
  ∃ front id, Parts root path front id extension

/-! ## One choice -/

variable {root : Option String} {path : String}

theorem Front.unique {text front front' : List Char} (h : Front root text front)
    (h' : Front root text front') : front = front' := by
  cases h with
  | root hne hfirst =>
    cases h' with
    | root _ hfirst' => rw [hfirst.unique hfirst']
    | slash hroot _ => exact absurd hroot hne
    | nothing hroot _ => exact absurd hroot hne
  | slash hroot hfirst =>
    cases h' with
    | root hne _ => exact absurd hroot hne
    | slash _ hfirst' => rw [hfirst.unique hfirst']
    | nothing _ hnot => exact absurd (hfirst.1.subset (by simp)) hnot
  | nothing hroot hnot =>
    cases h' with
    | root hne _ => exact absurd hroot hne
    | slash _ hfirst' => exact absurd (hfirst'.1.subset (by simp)) hnot
    | nothing _ _ => rfl

/-- Cutting the extension off leaves the name. -/
theorem dropExtension_eq_iff {part name : List Char} :
    dropExtension part = name ↔
      ∃ extension, part = name ++ extension ∧ Extension name extension := by
  rw [dropExtension]
  cases hlast : Text.beforeLast? '.' part with
  | none =>
    have hnot : '.' ∉ part := Text.beforeLast?_eq_none_iff.mp hlast
    constructor
    · rintro rfl
      exact ⟨[], by simp, .none hnot⟩
    · rintro ⟨extension, rfl, hextension⟩
      cases hextension with
      | none _ => simp
      | dot _ => exact absurd (by simp) hnot
  | some before =>
    obtain ⟨behind, rfl, hbehind⟩ := Text.beforeLast?_eq_some_iff.mp hlast
    constructor
    · rintro rfl
      exact ⟨'.' :: behind, rfl, .dot hbehind⟩
    · rintro ⟨extension, hpart, hextension⟩
      cases hextension with
      | none hnot => exact absurd (by rw [← List.append_nil name, ← hpart]; simp) hnot
      | @dot other hother =>
        have hname := Text.beforeLast?_eq_some_iff.mpr ⟨other, hpart, hother⟩
        exact Option.some.inj (hlast.symm.trans hname)

theorem Parts.unique {front front' extension extension' : List Char} {id id' : Identifier}
    (h : Parts root path front id extension) (h' : Parts root path front' id' extension') :
    front = front' ∧ id = id' ∧ extension = extension' := by
  obtain rfl := h.starts.unique h'.starts
  have hrest : id.text.toList ++ extension = id'.text.toList ++ extension' := by
    have hwhole := h.whole.symm.trans h'.whole
    rwa [List.append_assoc, List.append_assoc, List.append_cancel_left_eq] at hwhole
  have hname : id.text.toList = id'.text.toList :=
    (dropExtension_eq_iff.mpr ⟨extension, rfl, h.ends⟩).symm.trans
      (dropExtension_eq_iff.mpr ⟨extension', hrest, h'.ends⟩)
  refine ⟨rfl, ?_, ?_⟩
  · cases id
    cases id'
    exact congrArg Identifier.mk (String.toList_inj.mp hname)
  · rwa [hname, List.append_cancel_left_eq] at hrest

/-! ## The parts that are found -/

/-- The part of a path that the name is taken from stands behind the front. -/
theorem partBehind?_eq_some_iff {text part : List Char} :
    partBehind? (root.map String.toList) text = some part ↔
      ∃ front, Front root text front ∧ text = front ++ part := by
  have hslash (hroot : root.getD "" = "") : partBehind? none text = some part ↔
      ∃ front, Front root text front ∧ text = front ++ part := by
    unfold partBehind?
    cases hsplit : Text.splitFirst? ['/'] text with
    | none =>
      have hnot : '/' ∉ text := by
        simpa [List.singleton_infix_iff] using Text.splitFirst?_eq_none_iff.mp hsplit
      have hfront : Front root text [] := .nothing hroot hnot
      constructor
      · intro h
        exact ⟨[], hfront, Option.some.inj h⟩
      · rintro ⟨front, hother, htext⟩
        obtain rfl := hfront.unique hother
        exact congrArg some htext
    | some pieces =>
      obtain ⟨before, after⟩ := pieces
      obtain ⟨htext, hfirst⟩ := Text.splitFirst?_eq_some_iff.mp hsplit
      have hfront : Front root text (before ++ ['/']) := .slash hroot hfirst
      constructor
      · intro h
        obtain rfl : after = part := Option.some.inj h
        exact ⟨_, hfront, htext⟩
      · rintro ⟨front, hother, hpart⟩
        obtain rfl := hfront.unique hother
        exact congrArg some (List.append_cancel_left (htext.symm.trans hpart))
  cases root with
  | none => exact hslash rfl
  | some r =>
    by_cases hr : r = ""
    · subst hr
      exact hslash rfl
    · have hne : r.toList ≠ [] := fun hnil => hr (String.toList_eq_nil_iff.mp hnil)
      obtain ⟨c, rest, hcons⟩ := List.exists_cons_of_ne_nil hne
      rw [Option.map_some, hcons, partBehind?, ← hcons, Option.map_eq_some_iff]
      constructor
      · rintro ⟨⟨before, after⟩, hsplit, rfl⟩
        obtain ⟨htext, hfirst⟩ := Text.splitFirst?_eq_some_iff.mp hsplit
        exact ⟨_, .root hr hfirst, htext⟩
      · rintro ⟨front, hfront, htext⟩
        cases hfront with
        | root _ hfirst => exact ⟨⟨_, part⟩, Text.splitFirst?_eq_some_iff.mpr ⟨htext, hfirst⟩, rfl⟩
        | slash hroot _ => exact absurd hroot hr
        | nothing hroot _ => exact absurd hroot hr

/-- A path is named exactly by the name among its parts. -/
theorem ofPath_eq_ok_iff {id : Identifier} :
    ofPath root path = .ok id ↔ ∃ front extension, Parts root path front id extension := by
  have hpart : ofPath root path = .ok id ↔ ∃ part,
      partBehind? (root.map String.toList) path.toList = some part ∧
        dropExtension part = id.text.toList := by
    rw [ofPath]
    cases partBehind? (root.map String.toList) path.toList with
    | none => simp
    | some part =>
      obtain ⟨text⟩ := id
      simp [String.ext_iff]
  rw [hpart]
  constructor
  · rintro ⟨part, hbehind, hname⟩
    obtain ⟨front, hfront, hpath⟩ := partBehind?_eq_some_iff.mp hbehind
    obtain ⟨extension, rfl, hextension⟩ := dropExtension_eq_iff.mp hname
    exact ⟨front, extension, hfront, by rw [hpath, List.append_assoc], hextension⟩
  · rintro ⟨front, extension, hparts⟩
    refine ⟨id.text.toList ++ extension, partBehind?_eq_some_iff.mpr ⟨front, hparts.starts, ?_⟩,
      dropExtension_eq_iff.mpr ⟨extension, rfl, hparts.ends⟩⟩
    rw [hparts.whole, List.append_assoc]

/-- A path is not named exactly where a root is set that does not occur in it. -/
theorem ofPath_eq_error_iff_root {e : RootMissing} :
    ofPath root path = .error e ↔
      ∃ r, root = some r ∧ r ≠ "" ∧ ¬ r.toList <:+: path.toList ∧ e = ⟨r, path⟩ := by
  cases root with
  | none =>
    have h := @ofPath_eq_error_iff {} path e
    simpa [Options.moduleRoot] using h
  | some r =>
    by_cases hr : r = ""
    · -- An empty root is no root.
      have hsame : ofPath (some r) path = ofPath none path := by subst hr; rfl
      have h := @ofPath_eq_error_iff {} path e
      rw [hsame]
      simpa [Options.moduleRoot, hr] using h
    · have h := @ofPath_eq_error_iff { root := r } path e
      rw [Options.moduleRoot_of_ne hr] at h
      simpa [hr] using h

/-! ## Names under one root -/

/-- In a path that starts with the root, the root is what stands in front of the name. -/
theorem front_of_isPrefix {r : String} {text : List Char} (hr : r ≠ "")
    (hstart : r.toList <+: text) : Front (some r) text r.toList := by
  have hfirst : FirstBehind r.toList [] text := ⟨hstart, fun _ _ => Nat.zero_le _⟩
  exact .root hr hfirst

/-- Paths that start with the root are told apart by name and extension. -/
theorem Parts.path_eq {r p q : String} (hr : r ≠ "") {front front' extension : List Char}
    {id : Identifier} (hp : Parts (some r) p front id extension)
    (hq : Parts (some r) q front' id extension) (hpstart : r.toList <+: p.toList)
    (hqstart : r.toList <+: q.toList) : p = q := by
  rw [← String.toList_inj, hp.whole, hq.whole,
    hp.starts.unique (front_of_isPrefix hr hpstart),
    hq.starts.unique (front_of_isPrefix hr hqstart)]

end ModuleBundler.Identifier

namespace ModuleBundler.Bundle

open Identifier (HasExtension)

variable {o : Options} {files : List SourceFile}

/-- Where no two files of a run are given one name, no collision is reported. -/
theorem Recorded.collisions_eq_nil {b : Bundle} (h : Recorded o files b)
    (hapart : ∀ i j id p q, NamedAt o files i id p → NamedAt o files j id q → i = j) :
    b.collisions = [] := by
  obtain ⟨places, hreports⟩ := h.reported
  cases hcollisions : b.collisions with
  | nil => rfl
  | cons c rest =>
    have hentries := hreports.entries
    rw [hcollisions] at hentries
    cases hentries with
    | @cons place _ _ _ hcollides _ =>
      obtain ⟨first, hlt, hfirst⟩ := hcollides.earlier
      exact absurd (hapart first place c.id _ _ hfirst.1 hcollides.named) hlt.ne

theorem NamedAt.ofPath_eq {i : Nat} {id : Identifier} {p : String} (h : NamedAt o files i id p) :
    Identifier.ofPath o.moduleRoot p = .ok id := by
  obtain ⟨file, -, hverdict, rfl⟩ := namedAt_iff.mp h
  have hadds := adds_of_verdict hverdict
  generalize addition o file = piece at hadds
  cases hadds with
  | named _ _ hname _ _ _ => exact hname

/-- Files with different display paths that start with the root and share their extension are
given different names. -/
theorem collisions_eq_nil_of_displays {extension : List Char} (hroot : o.root ≠ "")
    (hdistinct : (files.map (·.path.display)).Nodup)
    (hfiles : ∀ file ∈ files, o.root.toList <+: file.path.display.toList ∧
      HasExtension (some o.root) file.path.display extension) :
    (({} : Bundle).pushAll o files).collisions = [] := by
  have hparts {i : Nat} {id : Identifier} {p : String} (h : NamedAt o files i id p) :
      o.root.toList <+: p.toList ∧ ∃ front, Identifier.Parts (some o.root) p front id extension := by
    obtain ⟨file, hfile, -, rfl⟩ := namedAt_iff.mp h
    obtain ⟨hstart, front, named, hparts⟩ := hfiles file (List.mem_of_getElem? hfile)
    have hname := h.ofPath_eq
    rw [Options.moduleRoot_of_ne hroot] at hname
    obtain ⟨front', extension', hparts'⟩ := Identifier.ofPath_eq_ok_iff.mp hname
    obtain ⟨-, rfl, -⟩ := hparts.unique hparts'
    exact ⟨hstart, front, hparts⟩
  refine (Recorded.run o files).collisions_eq_nil fun i j id p q hp hq => ?_
  obtain ⟨hpstart, _, hpparts⟩ := hparts hp
  obtain ⟨hqstart, _, hqparts⟩ := hparts hq
  have hsame : p = q := hpparts.path_eq hroot hqparts hpstart hqstart
  refine (List.getElem?_inj (by simpa using hp.lt_length) hdistinct).mp ?_
  rw [List.getElem?_map, List.getElem?_map]
  exact hp.path.trans (hsame ▸ hq.path.symm)

end ModuleBundler.Bundle

namespace ModuleBundler.Identifier

/-- **Names decompose paths.** For every root and path:
* the path is not named exactly where a root is set that does not occur in it, and the error
  tells both;
* otherwise it is named by the name among its parts, of which there is one choice. What stands in
  front of the name is the shortest front of the path that ends in the root, or in a `/` where no
  root is set, and nothing where there is none; the extension is empty, or a dot with text without
  a dot behind it, and where it is empty the name has no dot.

So different paths that start with the root and share their extension have different names. Files
with such paths, no two alike, are bundled without a collision, whatever they hold; and of the
files that patterns stand for, no two display paths are alike. -/
theorem ofPath_decomposes :
    (∀ (root : Option String) (path : String),
      (∀ e, ofPath root path = .error e ↔
        ∃ r, root = some r ∧ r ≠ "" ∧ ¬ r.toList <:+: path.toList ∧ e = ⟨r, path⟩) ∧
      (∀ id, ofPath root path = .ok id ↔ ∃ front extension, Parts root path front id extension) ∧
      ∀ front front' id id' extension extension', Parts root path front id extension →
        Parts root path front' id' extension' →
          front = front' ∧ id = id' ∧ extension = extension') ∧
    (∀ (root p q : String) (front front' extension : List Char) (id id' : Identifier),
      root ≠ "" → p ≠ q → root.toList <+: p.toList → root.toList <+: q.toList →
      Parts (some root) p front id extension → Parts (some root) q front' id' extension →
        id ≠ id') ∧
    (∀ (o : Options) (files : List SourceFile) (extension : List Char), o.root ≠ "" →
      (files.map (·.path.display)).Nodup →
      (∀ file ∈ files, o.root.toList <+: file.path.display.toList ∧
        HasExtension (some o.root) file.path.display extension) →
      (({} : Bundle).pushAll o files).collisions = []) ∧
    ∀ (t : FileTree) (workingDir : Location) (base : Path) (patterns : List String)
      (found : List SourcePath),
      Expansion.expand t workingDir base patterns = .ok found →
      (found.map SourcePath.display).Nodup := by
  refine ⟨fun root path => ⟨fun e => ofPath_eq_error_iff_root, fun id => ofPath_eq_ok_iff, ?_⟩,
    ?_, ?_, ?_⟩
  · intro front front' id id' extension extension' h h'
    exact h.unique h'
  · intro root p q front front' extension id id' hroot hne hpstart hqstart hp hq hid
    subst hid
    exact hne (hp.path_eq hroot hq hpstart hqstart)
  · intro o files extension hroot hdistinct hfiles
    exact Bundle.collisions_eq_nil_of_displays hroot hdistinct hfiles
  · intro t workingDir base patterns found hfound
    exact (Expansion.meaning_of_expand hfound).2.distinct

/-- A root that overlaps itself, a dot in front of it, and names that end where others go on:
the files are told apart although one name is a front of the other. -/
theorem ofPath_decomposes_overlapping :
    let o : Options := { root := "a.a" }
    let file (display : String) : SourceFile := ⟨⟨display, ⟨display⟩⟩, "define([], function () {});"⟩
    let files := [file "a.a.a.js", file "a.a.a.a.js"]
    ofPath (some "a.a") "a.a.a.js" = .ok ⟨".a"⟩ ∧ ofPath (some "a.a") "a.a.a.a.js" = .ok ⟨".a.a"⟩ ∧
      (files.map (·.path.display)).Nodup ∧ (({} : Bundle).pushAll o files).collisions = [] := by
  intro o file files
  obtain ⟨hparts, -, hbundle, -⟩ := ofPath_decomposes
  have hshort : Parts (some "a.a") "a.a.a.js" "a.a".toList ⟨".a"⟩ ".js".toList :=
    ⟨front_of_isPrefix (by decide) (by decide), by decide, .dot (by decide)⟩
  have hlong : Parts (some "a.a") "a.a.a.a.js" "a.a".toList ⟨".a.a"⟩ ".js".toList :=
    ⟨front_of_isPrefix (by decide) (by decide), by decide, .dot (by decide)⟩
  have hdistinct : (files.map (·.path.display)).Nodup := by decide
  refine ⟨((hparts _ _).2.1 _).mpr ⟨_, _, hshort⟩, ((hparts _ _).2.1 _).mpr ⟨_, _, hlong⟩,
    hdistinct, hbundle o files ".js".toList (by decide) hdistinct ?_⟩
  intro f hf
  rcases List.mem_cons.mp hf with rfl | hf
  · exact ⟨by decide, _, _, hshort⟩
  · obtain rfl := List.mem_singleton.mp hf
    exact ⟨by decide, _, _, hlong⟩

end ModuleBundler.Identifier
