/-
# ModuleBundler.Proofs.Expansion.Walk -- what the shorter walk of a glob may miss

A glob is looked for below the directories that it spells out, and not in the whole base
directory. Nothing is lost by that as long as what it spells out is the name of a directory:
a path that the glob matches begins with it then (`Glob.exists_behind_of_accepts`), and the
walk that starts further down shows the file in the same way.

A backslash is the exception. It is part of what a glob matches by, and it is left standing
in the path of the directory, where it is a character like any other. Main statement:
`mem_found_iff_of_whole_walk`, for every file of the whole walk that a glob matches. The
glob finds the file exactly if the directory it spells out is written without a backslash,
in a path that the operating system takes.
-/

import Mathlib.Data.List.TakeWhile
import ModuleBundler.Proofs.Expansion.Display
import ModuleBundler.Proofs.FileTree.Descent
import ModuleBundler.Proofs.Glob.Literal

namespace ModuleBundler

open InputPattern (literalPrefix walkRoot shown isGlobMark)
open ModuleBundler.Path (IsName isHiddenName Component)
open Text (splitOn joinWith)

/-! ## What a glob spells out -/

namespace InputPattern

/-- What is kept at the front of a list, but for its last part, is what is kept of a front part
that goes on. -/
theorem exists_append_of_prefix_dropLast_filter {α : Type} {keep : α → Bool} {all kept : List α}
    (hkept : kept <+: (all.filter keep).dropLast) (hne : kept ≠ []) :
    ∃ front back, all = front ++ back ∧ front ≠ [] ∧ back ≠ [] ∧ kept = front.filter keep := by
  obtain ⟨front, ⟨back, rfl⟩, hfront⟩ :=
    List.prefix_filter_iff.mp (hkept.trans (List.dropLast_prefix _))
  refine ⟨front, back, rfl, ?_, ?_, hfront⟩
  · rintro rfl
    exact hne hfront
  · rintro rfl
    -- Nothing would be left for the last part.
    have hlength := hkept.length_le
    have hpos := List.length_pos_iff.mpr hne
    rw [List.append_nil, ← hfront, List.length_dropLast] at hlength
    omega

/-- The directory that a glob spells out is nothing, or what stands before one of its slashes
but for slashes that say nothing. -/
theorem literalPrefix_cases {glob : List Char} (hrelative : glob.head? ≠ some '/') :
    literalPrefix glob = ⟨""⟩ ∨ ∃ front rest, glob = front ++ '/' :: rest ∧
      (∀ c ∈ front, isGlobMark c = false) ∧
      (literalPrefix glob).text.toList = joinWith '/' ((splitOn '/' front).filter (· ≠ [])) := by
  unfold literalPrefix
  rw [if_neg (by simpa using hrelative)]
  dsimp only
  generalize hliteral : List.takeWhile _ _ = literal
  by_cases hnil : literal = []
  · exact .inl (by rw [hnil]; rfl)
  · refine .inr ?_
    have hplain : ∀ segment ∈ literal, segment.any isGlobMark = false := by
      intro segment hsegment
      rw [← hliteral] at hsegment
      simpa using List.mem_takeWhile_imp hsegment
    obtain ⟨pieces, more, hsplit, hpieces, hmore, hfilter⟩ :=
      exists_append_of_prefix_dropLast_filter (hliteral ▸ List.takeWhile_prefix _) hnil
    have hslash : ∀ piece ∈ pieces, '/' ∉ piece := by
      intro piece hpiece
      exact Text.not_mem_of_mem_splitOn (hsplit ▸ List.mem_append_left _ hpiece)
    refine ⟨joinWith '/' pieces, joinWith '/' more, ?_, ?_, ?_⟩
    · rw [← Text.joinWith_append '/' hpieces hmore, ← hsplit, Text.joinWith_splitOn]
    · intro c hc
      rcases Text.eq_or_mem_of_mem_joinWith hc with rfl | ⟨piece, hpiece, hmem⟩
      · rfl
      · have hkept : piece ∈ literal := by
          rw [hfilter, List.mem_filter]
          exact ⟨hpiece, by simpa using List.ne_nil_of_mem hmem⟩
        simpa using List.any_eq_false.mp (hplain piece hkept) c hmem
    · rw [Text.splitOn_joinWith hpieces hslash, ← hfilter, String.toList_ofList]
      rfl

/-! ## Names that a glob matches -/

/-- The pieces that names are made of are neither empty nor `.`. -/
theorem isSilent_of_forall₂_sublist {names : List String} {pieces : List (List Char)}
    (hnames : ∀ name ∈ names, IsName name ∧ isHiddenName name = false)
    (h : List.Forall₂ List.Sublist (names.map String.toList) pieces) :
    ∀ piece ∈ pieces, Path.isSilent piece = false := by
  induction names generalizing pieces with
  | nil =>
    cases h
    simp
  | cons name rest ih =>
    cases h with
    | cons hpiece hmore =>
      obtain ⟨hname, hvisible⟩ := hnames name List.mem_cons_self
      obtain ⟨c, tail, hcons⟩ := List.exists_cons_of_ne_nil hname.toList_ne_nil
      have hdot : c ≠ '.' := by simpa [isHiddenName, hcons] using hvisible
      intro piece hmem
      rcases List.mem_cons.mp hmem with rfl | hlater
      · have hc : c ∈ piece := (hcons ▸ hpiece).subset List.mem_cons_self
        refine Path.isSilent_eq_false_iff.mpr ⟨List.ne_nil_of_mem hc, ?_⟩
        rintro rfl
        exact hdot (List.mem_singleton.mp hc)
      · exact ih (fun n hn => hnames n (List.mem_cons_of_mem _ hn)) hmore piece hlater

/-- A relative glob matches the path that names make, and none of them is hidden. -/
structure MatchesNames (glob : List Char) (names : List String) : Prop where
  relative : glob.head? ≠ some '/'
  accepted : ∃ tokens, Glob.parse glob = .ok tokens ∧
    Glob.accepts tokens (Path.ofNames names).text = true
  ne_nil : names ≠ []
  visible : ∀ name ∈ names, IsName name ∧ isHiddenName name = false

section MatchesNames

variable {glob : List Char} {names : List String} (h : MatchesNames glob names)
include h

/-- The directory that the glob spells out is nothing, or it is written piece by piece over the
first of the names. -/
theorem MatchesNames.literalPrefix_cases :
    literalPrefix glob = ⟨""⟩ ∨ ∃ front taken back, literalPrefix glob = ⟨String.ofList front⟩ ∧
      names = taken ++ back ∧ back ≠ [] ∧
      taken.map String.toList = splitOn '/' (Glob.unescaped front) ∧
      ∀ piece ∈ splitOn '/' front, Path.isSilent piece = false := by
  obtain ⟨hrelative, ⟨tokens, hparse, haccepts⟩, hne, hvisible⟩ := h
  rcases InputPattern.literalPrefix_cases hrelative with hnone | ⟨front, rest, rfl, hfront, htext⟩
  · exact .inl hnone
  · refine .inr ?_
    obtain ⟨behind, hbehind⟩ := Glob.exists_behind_of_accepts hfront hparse haccepts
    have hpieces : names.map String.toList =
        splitOn '/' (Glob.unescaped front) ++ splitOn '/' behind := by
      rw [← Text.splitOn_append_mark, ← hbehind,
        Path.splitOn_ofNames hne fun n hn => (hvisible n hn).1]
    obtain ⟨taken, back, rfl, htaken, hback⟩ := List.map_eq_append_iff.mp hpieces
    have hsilent : ∀ piece ∈ splitOn '/' front, Path.isSilent piece = false := by
      have hsublist := Glob.forall₂_sublist_splitOn_unescaped front
      rw [← htaken] at hsublist
      exact isSilent_of_forall₂_sublist (fun n hn => hvisible n (List.mem_append_left _ hn))
        hsublist
    have hfilter : (splitOn '/' front).filter (· ≠ []) = splitOn '/' front := by
      rw [List.filter_eq_self]
      intro piece hpiece
      simpa using (Path.isSilent_eq_false_iff.mp (hsilent piece hpiece)).1
    refine ⟨front, taken, back, ?_, rfl, ?_, htaken, hsilent⟩
    · rw [hfilter, Text.joinWith_splitOn] at htext
      exact congrArg Path.mk (String.toList_inj.mp (htext.trans String.toList_ofList.symm))
    · rintro rfl
      exact Text.splitOn_ne_nil _ _ hback.symm

/-- A directory that is spelled out without a backslash is the first of the names. -/
theorem MatchesNames.exists_eq_ofNames (hescape : '\\' ∉ (literalPrefix glob).text.toList) :
    ∃ taken back, names = taken ++ back ∧ back ≠ [] ∧ literalPrefix glob = .ofNames taken := by
  rcases h.literalPrefix_cases with hnone | ⟨front, taken, back, hfront, rfl, hback, htaken, -⟩
  · exact ⟨[], names, rfl, h.ne_nil, hnone⟩
  · rw [hfront, String.toList_ofList, ← Glob.unescaped_eq_self_iff] at hescape
    refine ⟨taken, back, rfl, hback, ?_⟩
    rw [hfront, Path.ofNames, htaken, Text.joinWith_splitOn, hescape]

/-- A directory that is spelled out as the first of the names is spelled out without a
backslash. -/
theorem MatchesNames.not_mem_of_course (hcourse : (literalPrefix glob).course <+: names.map .name) :
    '\\' ∉ (literalPrefix glob).text.toList := by
  rcases h.literalPrefix_cases with hnone | ⟨front, taken, back, hfront, rfl, -, htaken, hsilent⟩
  · rw [hnone]
    simp
  · have hrelative : (glob.head? == some '/') = false := by simpa using h.relative
    have hpieces : (literalPrefix glob).course = (splitOn '/' front).map Path.component := by
      rw [Path.course_of_relative (isAbsolute_literalPrefix hrelative), hfront,
        String.toList_ofList, Path.furtherComponents, List.filter_eq_self.mpr]
      intro piece hpiece
      simp [hsilent piece hpiece]
    -- There are as many pieces as names, so each of them is the name at its place.
    have hlength : (splitOn '/' front).length = taken.length := by
      rw [← (Glob.forall₂_sublist_splitOn_unescaped front).length_eq, ← htaken, List.length_map]
    rw [hpieces, List.map_append] at hcourse
    have hnamed : (splitOn '/' front).map Path.component = taken.map Component.name := by
      have hprefix := List.prefix_of_prefix_length_le hcourse (List.prefix_append _ _)
        (by simp [hlength])
      exact hprefix.eq_of_length (by simp [hlength])
    have hspelled : splitOn '/' front = splitOn '/' (Glob.unescaped front) := by
      have hsegments := congrArg (List.map Component.segment) hnamed
      rw [List.map_map, List.map_map] at hsegments
      calc splitOn '/' front
          = (splitOn '/' front).map (Component.segment ∘ Path.component) :=
            (List.map_id'' Path.segment_component _).symm
        _ = taken.map String.toList := hsegments
        _ = splitOn '/' (Glob.unescaped front) := htaken
    rw [hfront, String.toList_ofList, ← Glob.unescaped_eq_self_iff]
    calc Glob.unescaped front
        = joinWith '/' (splitOn '/' (Glob.unescaped front)) := (Text.joinWith_splitOn _ _).symm
      _ = joinWith '/' (splitOn '/' front) := by rw [hspelled]
      _ = front := Text.joinWith_splitOn _ _

end MatchesNames

end InputPattern

namespace Expansion

open InputPattern (MatchesNames)

/-! ## The whole walk -/

/-- The files of a walk through the whole base directory, which is what `**` is looked for in. -/
def wholeWalk (t : FileTree) (workingDir : Location) (base : Path) : List SourcePath :=
  filesFor t workingDir base ['*', '*']

/-- Names that the whole walk goes by: from the directory at the base they lead to a file, and
none of them is hidden. -/
structure Listed (t : FileTree) (workingDir : Location) (base : Path) (directory : Location)
    (names : List String) : Prop where
  start : t.directory? workingDir (base.join ⟨""⟩) = some directory
  walked : (base.join ⟨""⟩).components ≠ [.name "-"]
  ne_nil : names ≠ []
  visible : ∀ name ∈ names, IsName name ∧ isHiddenName name = false
  file : ∃ content, t.lookup (directory ++ names) = some (.file content)

/-- The file that names lead to, as the whole walk shows it. -/
def listedFile (base : Path) (names : List String) : SourcePath :=
  ⟨(Path.ofNames names).text, (base.join ⟨""⟩).below names⟩

variable {t : FileTree} {workingDir directory : Location} {base : Path} {glob : List Char}
  {names : List String} {tokens : List Glob.Token} {f : SourcePath}

/-- The whole walk shows a file by the names that lead to it. -/
theorem shown_whole (hroot : (base.join ⟨""⟩).text ≠ "")
    (hnames : ∀ name ∈ names, IsName name ∧ isHiddenName name = false) :
    shown base ['*', '*'] names = (Path.ofNames names).text := by
  have hbase : base.text ≠ "" := by
    intro hempty
    exact hroot (by simp [Path.join, Path.isAbsolute, hempty])
  have hwalk : walkRoot base ['*', '*'] = base.join ⟨""⟩ := rfl
  have hcomponents : (base.join ⟨""⟩).components = base.components := by
    rw [Path.components_join hbase rfl]
    exact List.append_nil _
  have hdisplay : Path.componentsBehind? base ((walkRoot base ['*', '*']).below names) =
      some ((walkRoot base ['*', '*']).components.drop base.components.length ++
        names.map .name) :=
    InputPattern.componentsBehind?_below rfl (hwalk ▸ hroot) hnames
  unfold shown displayOf
  rw [if_neg (by decide), hdisplay, hwalk, hcomponents, List.drop_length, List.nil_append]
  exact Path.textOfComponents_names names fun n hn => (hnames n hn).1

theorem exists_listed (h : f ∈ wholeWalk t workingDir base) :
    ∃ directory names, Listed t workingDir base directory names ∧ f = listedFile base names := by
  have hroot : walkRoot base ['*', '*'] = base.join ⟨""⟩ := rfl
  obtain ⟨directory, names, content, hstart, hwalked, hne, hvisible, hlookup, rfl⟩ :=
    mem_filesFor_iff.mp h
  rw [hroot] at hstart hwalked
  have hnames : ∀ name ∈ names, IsName name ∧ isHiddenName name = false :=
    FileTree.names_of_lookup hlookup hvisible
  have hshown : shown base ['*', '*'] names = (Path.ofNames names).text :=
    shown_whole (FileTree.text_ne_empty_of_directory? hstart) hnames
  refine ⟨directory, names, ⟨hstart, hwalked, hne, hnames, content, hlookup⟩, ?_⟩
  rw [hshown]
  rfl

/-! ## The shorter walk -/

section Start

variable (base : Path) {taken : List String} (htaken : ∀ name ∈ taken, IsName name)
  (hspelled : literalPrefix glob = .ofNames taken)
include htaken hspelled

/-- The shorter walk starts at names behind the path where the whole walk starts. -/
theorem walkRoot_eq_join : walkRoot base glob = (base.join ⟨""⟩).join (.ofNames taken) := by
  rw [Path.join_join_nothing base (Path.isAbsolute_ofNames htaken), ← hspelled]
  rfl

theorem walkRoot_eq_below : walkRoot base glob = (base.join ⟨""⟩).below taken := by
  rw [walkRoot_eq_join base htaken hspelled]
  by_cases hnone : taken = []
  · rw [hnone]
    exact Path.join_join_nothing base rfl
  · exact Path.join_ofNames _ hnone htaken

end Start

/-- A walk that starts at the first names that lead to a file finds the file. -/
theorem Listed.mem_filesFor (h : t.Plain workingDir) {taken back : List String}
    (hlisted : Listed t workingDir base directory (taken ++ back)) (hback : back ≠ [])
    (hspelled : literalPrefix glob = .ofNames taken)
    (hopenable : (walkRoot base glob).IsOpenable) (hrelative : glob.head? ≠ some '/') :
    listedFile base (taken ++ back) ∈ filesFor t workingDir base glob := by
  obtain ⟨hstart, hwalked, -, hnames, content, hlookup⟩ := hlisted
  have htext := FileTree.text_ne_empty_of_directory? hstart
  have htaken : ∀ name ∈ taken, IsName name ∧ isHiddenName name = false := fun n hn =>
    hnames n (List.mem_append_left _ hn)
  have hproper : ∀ name ∈ taken, IsName name := fun n hn => (htaken n hn).1
  have hbelow := walkRoot_eq_below base hproper hspelled
  have hfile : (base.join ⟨""⟩).below (taken ++ back) = (walkRoot base glob).below back := by
    rw [hbelow, Path.below_append]
  have hlookup' : t.lookup (directory ++ taken ++ back) = some (.file content) := by
    rw [List.append_assoc, hlookup]
  have hstart' : t.directory? workingDir (walkRoot base glob) = some (directory ++ taken) := by
    have hbetween := h.lookup_of_below hback hlookup'
    rw [walkRoot_eq_join base hproper hspelled] at hopenable ⊢
    exact (h.directory?_join_ofNames hstart htaken hbetween).mpr hopenable
  have hwalked' : (walkRoot base glob).components ≠ [.name "-"] := by
    rw [hbelow, Path.components_below htext htaken]
    intro hdash
    rcases List.append_eq_singleton_iff.mp hdash with ⟨hnone, -⟩ | ⟨hroot, -⟩
    · exact Path.components_ne_nil htext hnone
    · exact hwalked hroot
  have hshown : (Path.ofNames (taken ++ back)).text = shown base glob back := by
    rw [← shown_whole htext hnames]
    have habsolute : (glob.head? == some '/') = false := by simpa using hrelative
    unfold shown
    rw [habsolute, ← hfile]
    rfl
  rw [listedFile, hshown, hfile, mem_filesFor_iff]
  exact ⟨_, back, content, hstart', hwalked', hback,
    fun n hn => (hnames n (List.mem_append_right _ hn)).2, hlookup', rfl⟩

/-- A walk finds a file only below the first names that lead to it. -/
theorem course_of_mem_filesFor
    (hnames : ∀ name ∈ names, IsName name ∧ isHiddenName name = false)
    (hmem : listedFile base names ∈ filesFor t workingDir base glob) :
    (literalPrefix glob).course <+: names.map .name ∧
      ∃ l, t.directory? workingDir (walkRoot base glob) = some l := by
  obtain ⟨l, behind, _, hstart, -, -, hvisible, hlookup, heq⟩ := mem_filesFor_iff.mp hmem
  have hbehind : ∀ name ∈ behind, IsName name ∧ isHiddenName name = false :=
    FileTree.names_of_lookup hlookup hvisible
  have hshown : (Path.ofNames names).text = shown base glob behind :=
    congrArg SourcePath.display heq
  have hcourse := InputPattern.course_shown (FileTree.text_ne_empty_of_directory? hstart) hbehind
  rw [← hshown] at hcourse
  rw [← Path.course_ofNames hnames]
  exact ⟨⟨behind.map .name, hcourse.symm⟩, l, hstart⟩

/-- What a glob accepts can be computed. -/
theorem exists_accepts {path : String}
    (h : (Glob.parse glob).toOption.any (Glob.accepts · path) = true) :
    ∃ tokens, Glob.parse glob = .ok tokens ∧ Glob.accepts tokens path = true := by
  cases hparse : Glob.parse glob with
  | error e =>
    rw [hparse] at h
    cases h
  | ok tokens =>
    rw [hparse] at h
    exact ⟨tokens, rfl, h⟩

/-- **What the shorter walk finds.** In a tree without links, take a file that a walk through the
whole base directory lists and a glob matches. The glob finds it exactly if the directory that
it spells out is written without a backslash, in a path that the operating system takes. -/
theorem mem_found_iff_of_whole_walk (h : t.Plain workingDir) (hrelative : glob.head? ≠ some '/')
    (hparse : Glob.parse glob = .ok tokens) (hwalk : f ∈ wholeWalk t workingDir base)
    (haccepts : Glob.accepts tokens f.display = true) :
    ∃ files, found t workingDir base (.glob glob) = .ok files ∧
      (f ∈ files ↔ '\\' ∉ (literalPrefix glob).text.toList ∧ (walkRoot base glob).IsOpenable) := by
  obtain ⟨directory, names, hlisted, rfl⟩ := exists_listed hwalk
  have hmatches : MatchesNames glob names :=
    ⟨hrelative, ⟨tokens, hparse, haccepts⟩, hlisted.ne_nil, hlisted.visible⟩
  refine ⟨_, found_glob (parseGlob_eq_ok_iff.mpr hparse), ?_⟩
  rw [mem_sortByDisplay, List.mem_filter, and_iff_left haccepts]
  constructor
  · intro hmem
    obtain ⟨hcourse, l, hstart⟩ := course_of_mem_filesFor hlisted.visible hmem
    exact ⟨hmatches.not_mem_of_course hcourse, h.isOpenable hstart⟩
  · rintro ⟨hescape, hopenable⟩
    obtain ⟨taken, back, rfl, hback, hspelled⟩ := hmatches.exists_eq_ofNames hescape
    exact hlisted.mem_filesFor h hback hspelled hopenable hrelative

/-- A choice with a slash in it is looked for in the directory before it, and nothing is lost. -/
theorem mem_found_iff_of_whole_walk_choice :
    let t : FileTree :=
      { entries := [(["lib"], .directory), (["lib", "sub"], .directory),
          (["lib", "sub", "c.js"], .file (.text "")), (["lib", "a.js"], .file (.text ""))] }
    let glob := "lib/\x7ba,sub/c\x7d.js".toList
    let f : SourcePath := ⟨"lib/sub/c.js", ⟨"/lib/sub/c.js"⟩⟩
    t.Plain [] ∧ glob.head? ≠ some '/' ∧ f ∈ wholeWalk t [] ⟨"/"⟩ ∧
      ∃ tokens files, Glob.parse glob = .ok tokens ∧ Glob.accepts tokens f.display = true ∧
        found t [] ⟨"/"⟩ (.glob glob) = .ok files ∧ f ∈ files := by
  intro t glob f
  have ht : t.Plain [] := FileTree.plain_of_entries (by decide +kernel) rfl
  have hrelative : glob.head? ≠ some '/' := by decide +kernel
  have hwalk : f ∈ wholeWalk t [] ⟨"/"⟩ := by decide +kernel
  have hopenable : '\\' ∉ (literalPrefix glob).text.toList ∧ (walkRoot ⟨"/"⟩ glob).IsOpenable := by
    decide +kernel
  obtain ⟨tokens, hparse, haccepts⟩ := exists_accepts
    (by decide +kernel : (Glob.parse glob).toOption.any (Glob.accepts · f.display) = true)
  obtain ⟨files, hfound, hmem⟩ := mem_found_iff_of_whole_walk ht hrelative hparse hwalk haccepts
  exact ⟨ht, hrelative, hwalk, tokens, files, hparse, haccepts, hfound, hmem.mpr hopenable⟩

/-- A backslash in a directory that a glob spells out: the whole walk lists a file that the glob
matches, and takes away behind a `!`, but does not find. -/
theorem escaped_directory_not_found :
    let t : FileTree :=
      { entries := [(["ab"], .directory), (["ab", "x.js"], .file (.text "x();\n"))] }
    let glob := "a\\b/*.js".toList
    let f : SourcePath := ⟨"ab/x.js", ⟨"/ab/x.js"⟩⟩
    t.Plain [] ∧ glob.head? ≠ some '/' ∧ f ∈ wholeWalk t [] ⟨"/"⟩ ∧
      (∃ tokens, Glob.parse glob = .ok tokens ∧ Glob.accepts tokens f.display = true) ∧
      (found t [] ⟨"/"⟩ (.glob glob)).toOption = some [] ∧
      (expand t [] ⟨"/"⟩ ["ab/*.js"]).toOption = some [f] ∧
      (expand t [] ⟨"/"⟩ ["ab/*.js", "!a\\b/*.js"]).toOption = some [] := by
  intro t glob f
  have ht : t.Plain [] := FileTree.plain_of_entries (by decide +kernel) rfl
  exact ⟨ht, by decide +kernel, by decide +kernel, exists_accepts (by decide +kernel),
    by decide +kernel, by decide +kernel, by decide +kernel⟩

end Expansion

end ModuleBundler
