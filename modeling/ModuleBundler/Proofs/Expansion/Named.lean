/-
# ModuleBundler.Proofs.Expansion.Named -- patterns that name one file

A pattern without a glob mark names one file, and `expand` looks whether it is there. It is
the file that the pattern names below the base directory, with one exception: the `./` at the
front of a pattern is taken away as text, as often as it stands there, and what is left is
read as a path. Behind a `./` there may be one slash more, which says nothing in a path, and
then what is left is an absolute path (`StepsOut`).

Main statement: `expand_single_iff`. One pattern finds one file or nothing, and it is the file
that the pattern names, shown by a relative path if the pattern is one, exactly if the pattern
does not step out of the base directory so.
-/

import ModuleBundler.Proofs.Expansion.Display

namespace ModuleBundler

open ModuleBundler.Path (furtherComponents isSilent)
open Text (dropRepeated splitOn)

/-! ## The front of a pattern -/

namespace InputPattern

/-- A pattern of `./`, once or more often, and a slash behind. -/
def StepsOut (text : List Char) : Prop :=
  ∃ n rest, 0 < n ∧ text = (List.replicate n ['.', '/']).flatten ++ '/' :: rest

@[simp] theorem dropRepeated_dot (text : List Char) :
    dropRepeated ['.', '/'] 0 ('.' :: '/' :: text) = dropRepeated ['.', '/'] 0 text := by
  simp [dropRepeated]

theorem dropRepeated_eq_self {text : List Char} (h : ¬ ['.', '/'] <+: text) :
    dropRepeated ['.', '/'] 0 text = text := by
  cases text with
  | nil => rfl
  | cons c rest => rw [dropRepeated, if_neg (mt List.isPrefixOf_iff_prefix.mp h)]

/-- Every `./` at the front is taken away, and nothing else is. -/
theorem exists_eq_dropRepeated (text : List Char) :
    ∃ n, text = (List.replicate n ['.', '/']).flatten ++ dropRepeated ['.', '/'] 0 text ∧
      ¬ ['.', '/'] <+: dropRepeated ['.', '/'] 0 text := by
  have hnone {text : List Char} (h : ¬ ['.', '/'] <+: text) :
      ∃ n, text = (List.replicate n ['.', '/']).flatten ++ dropRepeated ['.', '/'] 0 text ∧
        ¬ ['.', '/'] <+: dropRepeated ['.', '/'] 0 text := by
    rw [dropRepeated_eq_self h]
    exact ⟨0, rfl, h⟩
  -- Two characters at a time, as many as a `./` has.
  induction text using List.twoStepInduction with
  | nil => exact hnone (by simp)
  | singleton c => exact hnone fun h => by simpa using h.length_le
  | cons_cons c d rest ih _ =>
    by_cases hdot : ['.', '/'] <+: c :: d :: rest
    · obtain ⟨rfl, rfl⟩ : '.' = c ∧ '/' = d := by simpa using hdot
      obtain ⟨n, hrest, hlast⟩ := ih
      rw [dropRepeated_dot]
      refine ⟨n + 1, ?_, hlast⟩
      rw [List.replicate_succ, List.flatten_cons, List.append_assoc, ← hrest]
      rfl
    · exact hnone hdot

theorem dropRepeated_replicate (n : Nat) (text : List Char) :
    dropRepeated ['.', '/'] 0 ((List.replicate n ['.', '/']).flatten ++ text) =
      dropRepeated ['.', '/'] 0 text := by
  induction n with
  | zero => rfl
  | succ n ih =>
    rw [List.replicate_succ, List.flatten_cons, List.append_assoc]
    exact (dropRepeated_dot _).trans ih

/-- A pattern steps out if it is no absolute path itself, and becomes one. -/
theorem stepsOut_iff {text : List Char} :
    StepsOut text ↔ text.head? ≠ some '/' ∧ (dropRepeated ['.', '/'] 0 text).head? = some '/' := by
  constructor
  · rintro ⟨n, rest, hn, rfl⟩
    obtain ⟨m, rfl⟩ := Nat.exists_eq_succ_of_ne_zero hn.ne'
    have hslash : ¬ ['.', '/'] <+: '/' :: rest := by simp
    rw [dropRepeated_replicate, dropRepeated_eq_self hslash]
    simp [List.replicate_succ]
  · rintro ⟨hrelative, hslash⟩
    obtain ⟨n, htext, -⟩ := exists_eq_dropRepeated text
    obtain ⟨rest, hrest⟩ := List.head?_eq_some_iff.mp hslash
    rw [hrest] at htext
    refine ⟨n, rest, Nat.pos_of_ne_zero ?_, htext⟩
    rintro rfl
    exact hrelative (by rw [htext]; rfl)

instance : DecidablePred StepsOut := fun _ => decidable_of_iff _ stepsOut_iff.symm

theorem furtherComponents_replicate (n : Nat) (text : List Char) :
    furtherComponents ((List.replicate n ['.', '/']).flatten ++ text) = furtherComponents text := by
  induction n with
  | zero => rfl
  | succ n ih =>
    have hdot (further : List Char) :
        furtherComponents ('.' :: '/' :: further) = furtherComponents further := by
      simp [furtherComponents, splitOn, isSilent]
    rw [List.replicate_succ, List.flatten_cons, List.append_assoc]
    exact (hdot _).trans ih

/-- What is taken away says nothing behind a slash. -/
theorem furtherComponents_dropRepeated (text : List Char) :
    furtherComponents (dropRepeated ['.', '/'] 0 text) = furtherComponents text := by
  obtain ⟨n, htext, -⟩ := exists_eq_dropRepeated text
  conv_rhs => rw [htext]
  exact (furtherComponents_replicate n _).symm

theorem ofText_of_plain {text : List Char} (hkept : text.head? ≠ some '!')
    (hplain : text.any isGlobMark = false) :
    ofText text = .file (dropRepeated ['.', '/'] 0 text) := by
  obtain ⟨n, htext, -⟩ := exists_eq_dropRepeated text
  have hbody : (dropRepeated ['.', '/'] 0 text).any isGlobMark = false := by
    rw [List.any_eq_false]
    intro c hc
    have hmem : c ∈ text := htext ▸ List.mem_append_right _ hc
    exact List.any_eq_false.mp hplain c hmem
  unfold ofText
  split
  · exact absurd rfl hkept
  · exact if_neg (by simp [hbody])

end InputPattern

namespace Expansion

open InputPattern (StepsOut isGlobMark)

/-! ## The file of one pattern -/

/-- A file is the one that a path names below a base directory. Where the path is relative, the
file is looked up inside the base directory and shown by a relative path. -/
structure NamedBy (base p : Path) (f : SourcePath) : Prop where
  components : f.location.components = (base.join p).components
  inside : p.isAbsolute = false → base.components <+: f.location.components
  relative : p.isAbsolute = false → (⟨f.display⟩ : Path).isAbsolute = false

/-- What is left of a pattern without the `./` at its front, as a path. -/
def bodyOf (text : List Char) : Path :=
  ⟨String.ofList (dropRepeated ['.', '/'] 0 text)⟩

theorem isAbsolute_bodyOf (text : List Char) :
    (bodyOf text).isAbsolute = ((dropRepeated ['.', '/'] 0 text).head? == some '/') := by
  rw [bodyOf, Path.isAbsolute, String.toList_ofList]

/-- The file that a pattern without a mark stands for. -/
def fileOf (base : Path) (text : List Char) : SourcePath :=
  ⟨(bodyOf text).normalText, base.join (bodyOf text)⟩

@[simp] theorem fileOf_display (base : Path) (text : List Char) :
    (fileOf base text).display = (bodyOf text).normalText := rfl

@[simp] theorem fileOf_location (base : Path) (text : List Char) :
    (fileOf base text).location = base.join (bodyOf text) := rfl

theorem found_fileOf (t : FileTree) (workingDir : Location) (base : Path) (text : List Char) :
    found t workingDir base (.file (dropRepeated ['.', '/'] 0 text)) =
      .ok (if t.isFile workingDir (fileOf base text).location then [fileOf base text] else []) := by
  rw [fileOf_location]
  cases hfile : t.isFile workingDir (base.join (bodyOf text)) with
  | true =>
    rw [bodyOf] at hfile
    simp [found, fileOf, bodyOf, hfile]
  | false =>
    rw [bodyOf] at hfile
    simp [found, hfile]

theorem expand_file (t : FileTree) (workingDir : Location) (base : Path) {pattern : String}
    (hkept : pattern.toList.head? ≠ some '!') (hplain : pattern.toList.any isGlobMark = false) :
    expand t workingDir base [pattern] =
      .ok (if t.isFile workingDir (fileOf base pattern.toList).location then
        [fileOf base pattern.toList] else []) := by
  have happly : applyPattern t workingDir base [] (.ofText pattern.toList) =
      (found t workingDir base (.ofText pattern.toList)).map (addNew []) := by
    rw [InputPattern.ofText_of_plain hkept hplain]
    rfl
  rw [expand, List.foldlM_cons, happly, InputPattern.ofText_of_plain hkept hplain, found_fileOf]
  cases t.isFile workingDir (fileOf base pattern.toList).location with
  | true => rfl
  | false => rfl

/-- Where a pattern does not step out, its file is the one that it names. -/
theorem fileOf_namedBy {base : Path} (hbase : base.text ≠ "") {pattern : String}
    (h : ¬ StepsOut pattern.toList) : NamedBy base ⟨pattern⟩ (fileOf base pattern.toList) := by
  rw [InputPattern.stepsOut_iff, not_and] at h
  cases habsolute : (⟨pattern⟩ : Path).isAbsolute with
  | true =>
    obtain ⟨rest, hslash⟩ := List.head?_eq_some_iff.mp (by simpa [Path.isAbsolute] using habsolute)
    have hbody : bodyOf pattern.toList = ⟨pattern⟩ := by
      rw [bodyOf, InputPattern.dropRepeated_eq_self (by simp [hslash]), String.ofList_toList]
    refine ⟨?_, ?_, ?_⟩
    · rw [fileOf_location, hbody]
    · simp [habsolute]
    · simp [habsolute]
  | false =>
    have hbody : (bodyOf pattern.toList).isAbsolute = false := by
      rw [isAbsolute_bodyOf]
      simpa using h (by simpa [Path.isAbsolute] using habsolute)
    refine ⟨?_, fun _ => ?_, fun _ => ?_⟩
    · rw [fileOf_location, Path.components_join hbase hbody, Path.components_join hbase habsolute,
        bodyOf, String.toList_ofList, InputPattern.furtherComponents_dropRepeated]
    · rw [fileOf_location]
      exact Path.components_isPrefix_join hbody
    · rw [fileOf_display, Path.isAbsolute_normalText, hbody]

/-- A pattern that steps out is relative, and its file is shown by an absolute path. -/
theorem not_fileOf_namedBy {base : Path} {pattern : String} (h : StepsOut pattern.toList) :
    ¬ NamedBy base ⟨pattern⟩ (fileOf base pattern.toList) := by
  intro hnamed
  obtain ⟨hrelative, hslash⟩ := InputPattern.stepsOut_iff.mp h
  have hdisplay := hnamed.relative (by simpa [Path.isAbsolute] using hrelative)
  rw [fileOf_display, Path.isAbsolute_normalText, isAbsolute_bodyOf, hslash] at hdisplay
  cases hdisplay

/-- **One pattern, one file.** A pattern without a mark finds one file, or nothing if that is no
regular file, in every tree. It is the file that the pattern names below the base directory,
exactly if the pattern is not made of `./` and a slash behind. -/
theorem expand_single_iff {base : Path} (hbase : base.text ≠ "") {pattern : String}
    (hkept : pattern.toList.head? ≠ some '!') (hplain : pattern.toList.any isGlobMark = false) :
    ∃ f : SourcePath,
      (∀ (t : FileTree) (workingDir : Location), expand t workingDir base [pattern] =
        .ok (if t.isFile workingDir f.location then [f] else [])) ∧
      (NamedBy base ⟨pattern⟩ f ↔ ¬ StepsOut pattern.toList) := by
  refine ⟨fileOf base pattern.toList, fun t workingDir => ?_, ?_⟩
  · exact expand_file t workingDir base hkept hplain
  · exact ⟨fun hnamed hout => not_fileOf_namedBy hout hnamed, fileOf_namedBy hbase⟩

/-- Slashes and a `.` inside a pattern say nothing. -/
theorem expand_single_iff_repeated :
    let t : FileTree :=
      { entries := [(["p"], .directory), (["p", "lib"], .directory),
          (["p", "lib", "a.js"], .file (.text ""))] }
    let base : Path := ⟨"/p"⟩
    let pattern := "././lib/.//a.js"
    base.text ≠ "" ∧ pattern.toList.head? ≠ some '!' ∧
      pattern.toList.any isGlobMark = false ∧
      ∃ f, expand t [] base [pattern] = .ok [f] ∧ NamedBy base ⟨pattern⟩ f := by
  intro t base pattern
  have hbase : base.text ≠ "" := by decide
  have hkept : pattern.toList.head? ≠ some '!' := by decide +kernel
  have hplain : pattern.toList.any isGlobMark = false := by decide +kernel
  obtain ⟨f, hexpand, hnamed⟩ := expand_single_iff hbase hkept hplain
  refine ⟨hbase, hkept, hplain, f, ?_, hnamed.mpr (by decide +kernel)⟩
  have hrun : (expand t [] base [pattern]).toOption.map List.length = some 1 := by decide +kernel
  rw [hexpand] at hrun ⊢
  split at hrun
  · next hfile => rw [if_pos hfile]
  · cases hrun

/-- A pattern that steps out: the file that it names below the base directory is there and is
not found, and one that is found lies outside. -/
theorem stepping_out_not_found :
    let inside : FileTree :=
      { entries := [(["p"], .directory), (["p", "lib"], .directory),
          (["p", "lib", "a.js"], .file (.text ""))] }
    let outside : FileTree :=
      { entries := [(["p"], .directory), (["lib"], .directory),
          (["lib", "a.js"], .file (.text ""))] }
    let base : Path := ⟨"/p"⟩
    let pattern := ".//lib/a.js"
    StepsOut pattern.toList ∧ inside.isFile [] (base.join ⟨pattern⟩) = true ∧
      (expand inside [] base [pattern]).toOption = some [] ∧
      (expand inside [] base ["./lib//a.js"]).toOption = some [⟨"lib/a.js", ⟨"/p/lib//a.js"⟩⟩] ∧
      (expand outside [] base [pattern]).toOption = some [⟨"/lib/a.js", ⟨"/lib/a.js"⟩⟩] := by
  intro inside outside base pattern
  exact ⟨by decide +kernel, by decide +kernel, by decide +kernel, by decide +kernel,
    by decide +kernel⟩

end Expansion

end ModuleBundler
