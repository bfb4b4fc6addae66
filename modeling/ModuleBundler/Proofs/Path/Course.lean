/-
# ModuleBundler.Proofs.Path.Course -- where a path leads, as it is written

The course of a path is its components without a leading `.`, which says nothing. Joining
puts courses one behind the other (`course_join`), and the normal text of a path has the
course of the path (`course_normalText`), so that a path and its normal text lead to the
same place from everywhere (`place_normalText`).

Places are found without looking at a tree: `..` takes away the name before it. In a tree
without links that is where a look-up arrives.
-/

import ModuleBundler.FileTree.Basic
import ModuleBundler.Proofs.Path.Naming

namespace ModuleBundler.Path

open Text (splitOn joinWith)

/-! ## Components that stand between slashes -/

/-- The text of a component between slashes. -/
def Component.segment : Component → List Char
  | .root => []
  | .here => []
  | .up => ['.', '.']
  | .name text => text.toList

/-- A component that is read back from its text: a `..`, or a name other than `.` and `..`. -/
structure Component.IsStep (c : Component) : Prop where
  not_silent : isSilent c.segment = false
  no_slash : '/' ∉ c.segment
  reads : component c.segment = c

theorem segment_component (segment : List Char) : (component segment).segment = segment := by
  unfold component
  split
  · next h => rw [h]; rfl
  · exact String.toList_ofList

theorem isStep_component {segment : List Char} (hsilent : isSilent segment = false)
    (hslash : '/' ∉ segment) : (component segment).IsStep := by
  refine ⟨?_, ?_, ?_⟩
  · rwa [segment_component]
  · rwa [segment_component]
  · rw [segment_component]

theorem isStep_name {name : String} (h : IsName name) (hvisible : isHiddenName name = false) :
    (Component.name name).IsStep := by
  obtain ⟨c, rest, hcons⟩ := List.exists_cons_of_ne_nil h.toList_ne_nil
  have hdot : c ≠ '.' := by simpa [isHiddenName, hcons] using hvisible
  refine ⟨?_, h.no_slash, ?_⟩
  · simp [Component.segment, hcons, isSilent, hdot]
  · rw [Component.segment, component, if_neg (by simp [hcons, hdot]), String.ofList_toList]

theorem isStep_of_mem_names {names : List String}
    (hnames : ∀ name ∈ names, IsName name ∧ isHiddenName name = false) :
    ∀ c ∈ names.map Component.name, c.IsStep := by
  intro c hc
  obtain ⟨name, hmem, rfl⟩ := List.mem_map.mp hc
  exact isStep_name (hnames name hmem).1 (hnames name hmem).2

theorem Component.IsStep.ne_nil {c : Component} (h : c.IsStep) : c.segment ≠ [] := by
  intro hnil
  have hsilent := h.not_silent
  simp [hnil, isSilent] at hsilent

theorem Component.IsStep.ne_here {c : Component} (h : c.IsStep) : c ≠ .here := by
  rintro rfl
  exact h.ne_nil rfl

theorem isStep_of_mem_furtherComponents {text : List Char} {c : Component}
    (h : c ∈ furtherComponents text) : c.IsStep := by
  obtain ⟨segment, hsegment, rfl⟩ := List.mem_map.mp h
  obtain ⟨hsplit, hsilent⟩ := List.mem_filter.mp hsegment
  exact isStep_component (by simpa using hsilent) (Text.not_mem_of_mem_splitOn hsplit)

/-- Segments with slashes between them are read back as components. -/
theorem furtherComponents_joinWith {cs : List Component} (h : ∀ c ∈ cs, c.IsStep) :
    furtherComponents (joinWith '/' (cs.map Component.segment)) = cs := by
  cases cs with
  | nil => rfl
  | cons c rest =>
    have hslash : ∀ segment ∈ (c :: rest).map Component.segment, '/' ∉ segment := by
      intro segment hsegment
      obtain ⟨d, hd, rfl⟩ := List.mem_map.mp hsegment
      exact (h d hd).no_slash
    have hsilent : ∀ segment ∈ (c :: rest).map Component.segment, (!isSilent segment) = true := by
      intro segment hsegment
      obtain ⟨d, hd, rfl⟩ := List.mem_map.mp hsegment
      simp [(h d hd).not_silent]
    rw [furtherComponents, Text.splitOn_joinWith (by simp) hslash, List.filter_eq_self.mpr hsilent,
      List.map_map]
    calc (c :: rest).map (component ∘ Component.segment)
        = (c :: rest).map id := List.map_congr_left fun d hd => (h d hd).reads
      _ = c :: rest := List.map_id _

/-! ## Courses -/

/-- The components of a path without a leading `.`. -/
def course (p : Path) : List Component :=
  p.components.filter (· ≠ .here)

theorem filter_furtherComponents (text : List Char) :
    (furtherComponents text).filter (· ≠ .here) = furtherComponents text := by
  rw [List.filter_eq_self]
  intro c hc
  simpa using (isStep_of_mem_furtherComponents hc).ne_here

theorem furtherComponents_slash (back : List Char) :
    furtherComponents ('/' :: back) = furtherComponents back := by
  simp [furtherComponents, splitOn, isSilent]

theorem course_of_absolute {p : Path} (h : p.isAbsolute = true) :
    p.course = .root :: furtherComponents p.text.toList := by
  obtain ⟨back, hback⟩ := exists_slash_of_isAbsolute h
  have hcomponents : p.components = .root :: furtherComponents back := by
    rw [components_of_slash (List.nil_append ('/' :: back) ▸ hback)]
    simp [components, segments, splitOn, leading, isSilent]
  rw [course, hcomponents, hback, furtherComponents_slash, List.filter_cons_of_pos (by simp),
    filter_furtherComponents]

theorem course_of_relative {p : Path} (h : p.isAbsolute = false) :
    p.course = furtherComponents p.text.toList := by
  obtain ⟨first, rest, hsplit⟩ := List.exists_cons_of_ne_nil (Text.splitOn_ne_nil '/' p.text.toList)
  have hrest : ∀ cs : List Component,
      (cs ++ (rest.filter (!isSilent ·)).map component).filter (· ≠ .here) =
        cs.filter (· ≠ .here) ++ (rest.filter (!isSilent ·)).map component := by
    intro cs
    rw [List.filter_append, List.append_cancel_left_eq, List.filter_eq_self]
    intro c hc
    obtain ⟨segment, hsegment, rfl⟩ := List.mem_map.mp hc
    obtain ⟨hmem, hsilent⟩ := List.mem_filter.mp hsegment
    have hslash := Text.not_mem_of_mem_splitOn (hsplit ▸ List.mem_cons_of_mem first hmem)
    simpa using (isStep_component (by simpa using hsilent) hslash).ne_here
  unfold course components segments furtherComponents
  simp only [hsplit]
  rw [hrest]
  by_cases hempty : first = []
  · -- Only the empty path has nothing before its first slash and does not start at the root.
    have hnil : rest = [] := by
      have hjoined := Text.joinWith_splitOn '/' p.text.toList
      rw [hsplit, hempty] at hjoined
      cases rest with
      | nil => rfl
      | cons second more =>
        rw [joinWith, List.nil_append] at hjoined
        · simp [isAbsolute, ← hjoined] at h
        · simp
    simp [hempty, hnil, leading, isSilent]
  · by_cases hdot : first = ['.']
    · simp [hdot, leading, isSilent]
    · have hslash := Text.not_mem_of_mem_splitOn (hsplit ▸ List.mem_cons_self)
      have hsilent : isSilent first = false := by simp [isSilent, hempty, hdot]
      have hstep := (isStep_component hsilent hslash).ne_here
      simp [leading, hempty, hdot, hsilent, hstep]

/-- Courses are put one behind the other. -/
theorem course_join (base p : Path) :
    (base.join p).course = if p.isAbsolute then p.course else base.course ++ p.course := by
  cases habsolute : p.isAbsolute with
  | true => simp [join, habsolute]
  | false =>
    by_cases hbase : base.text = ""
    · have hjoin : base.join p = p := by simp [join, habsolute, hbase]
      have hnone : base.course = [] := by
        simp [course, components, segments, hbase, splitOn, leading]
      simp [hjoin, hnone]
    · rw [course, components_join hbase habsolute, List.filter_append, filter_furtherComponents,
        course_of_relative habsolute]
      rfl

/-- Behind the components of the base directory stands the course of what is put there. -/
theorem exists_components_join (base : Path) {p : Path} (hp : p.isAbsolute = false) :
    ∃ behind, (base.join p).components = base.components ++ behind ∧
      behind.filter (· ≠ .here) = p.course := by
  obtain ⟨behind, hcomponents⟩ : base.components <+: (base.join p).components :=
    components_isPrefix_join hp
  have hcourse := course_join base p
  rw [hp, if_neg (by simp), course, ← hcomponents, List.filter_append] at hcourse
  exact ⟨behind, hcomponents.symm, List.append_cancel_left hcourse⟩

theorem filter_names (names : List String) :
    (names.map Component.name).filter (· ≠ .here) = names.map .name := by
  rw [List.filter_eq_self]
  intro c hc
  obtain ⟨name, -, rfl⟩ := List.mem_map.mp hc
  simp

theorem course_below {p : Path} {names : List String} (hp : p.text ≠ "")
    (hnames : ∀ name ∈ names, IsName name ∧ isHiddenName name = false) :
    (p.below names).course = p.course ++ names.map .name := by
  rw [course, components_below hp hnames, List.filter_append, filter_names, course]

theorem course_ofNames {names : List String}
    (hnames : ∀ name ∈ names, IsName name ∧ isHiddenName name = false) :
    (ofNames names).course = names.map .name := by
  have hsegments : names.map String.toList = (names.map Component.name).map Component.segment :=
    (List.map_map (g := Component.segment) (f := Component.name)).symm
  rw [course_of_relative (isAbsolute_ofNames fun n hn => (hnames n hn).1), toList_ofNames,
    hsegments, furtherComponents_joinWith (isStep_of_mem_names hnames)]

/-! ## Normal texts -/

theorem pushComponent_of_isStep (written : List Char) {c : Component} (h : c.IsStep) :
    pushComponent written c = pushSegment written c.segment := by
  cases c with
  | root => exact absurd rfl h.ne_nil
  | here => exact absurd rfl h.ne_nil
  | up => rfl
  | name text => rfl

theorem foldl_pushComponent_steps (written : List Char) {cs : List Component}
    (h : ∀ c ∈ cs, c.IsStep) :
    cs.foldl pushComponent written = (cs.map Component.segment).foldl pushSegment written := by
  induction cs generalizing written with
  | nil => rfl
  | cons c rest ih =>
    rw [List.foldl_cons, pushComponent_of_isStep written (h c List.mem_cons_self),
      ih _ fun d hd => h d (List.mem_cons_of_mem _ hd)]
    rfl

/-- Steps are written with single slashes between them, behind a slash or nothing. -/
theorem foldl_pushComponent_eq {written : List Char} (hwritten : withSlash written = written)
    {cs : List Component} (h : ∀ c ∈ cs, c.IsStep) :
    cs.foldl pushComponent written = written ++ joinWith '/' (cs.map Component.segment) := by
  rw [foldl_pushComponent_steps written h]
  cases cs with
  | nil => simp [joinWith]
  | cons c rest =>
    rw [foldl_pushSegment written (by simp), hwritten]
    intro segment hsegment
    obtain ⟨d, hd, rfl⟩ := List.mem_map.mp hsegment
    exact ⟨(h d hd).ne_nil, (h d hd).no_slash⟩

theorem head?_joinWith_segment {cs : List Component} (h : ∀ c ∈ cs, c.IsStep) :
    (joinWith '/' (cs.map Component.segment)).head? ≠ some '/' := by
  cases cs with
  | nil => simp [joinWith]
  | cons c rest =>
    have hc := h c List.mem_cons_self
    obtain ⟨first, more, hcons⟩ := List.exists_cons_of_ne_nil hc.ne_nil
    have hfirst : first ≠ '/' := by
      rintro rfl
      exact hc.no_slash (by simp [hcons])
    cases rest <;> simp [joinWith, hcons, hfirst]

theorem toList_textOfComponents {cs : List Component} (h : ∀ c ∈ cs, c.IsStep) :
    (textOfComponents cs).toList = joinWith '/' (cs.map Component.segment) := by
  rw [textOfComponents, String.toList_ofList, foldl_pushComponent_eq rfl h, List.nil_append]

theorem toList_textOfComponents_root {cs : List Component} (h : ∀ c ∈ cs, c.IsStep) :
    (textOfComponents (.root :: cs)).toList = '/' :: joinWith '/' (cs.map Component.segment) := by
  rw [textOfComponents, String.toList_ofList, List.foldl_cons]
  exact foldl_pushComponent_eq rfl h

theorem course_textOfComponents {cs : List Component} (h : ∀ c ∈ cs, c.IsStep) :
    (⟨textOfComponents cs⟩ : Path).course = cs := by
  have htext := toList_textOfComponents h
  have hrelative : (⟨textOfComponents cs⟩ : Path).isAbsolute = false := by
    simpa [isAbsolute, htext] using head?_joinWith_segment h
  rw [course_of_relative hrelative, htext, furtherComponents_joinWith h]

theorem course_textOfComponents_root {cs : List Component} (h : ∀ c ∈ cs, c.IsStep) :
    (⟨textOfComponents (.root :: cs)⟩ : Path).course = .root :: cs := by
  have htext := toList_textOfComponents_root h
  have habsolute : (⟨textOfComponents (.root :: cs)⟩ : Path).isAbsolute = true := by
    simp [isAbsolute, htext]
  rw [course_of_absolute habsolute, htext, furtherComponents_slash, furtherComponents_joinWith h]

/-- A leading `.` is not written. -/
theorem textOfComponents_filter (cs : List Component) :
    textOfComponents (cs.filter (· ≠ .here)) = textOfComponents cs := by
  have hfold : ∀ written, (cs.filter (· ≠ .here)).foldl pushComponent written =
      cs.foldl pushComponent written := by
    induction cs with
    | nil => intro written; rfl
    | cons c rest ih =>
      intro written
      by_cases hc : c = .here
      · rw [List.filter_cons_of_neg (by simp [hc]), ih, hc]
        rfl
      · rw [List.filter_cons_of_pos (by simp [hc]), List.foldl_cons, ih, List.foldl_cons]
  rw [textOfComponents, hfold]
  rfl

/-- The normal text of a path has its course. -/
theorem course_normalText (p : Path) : (⟨p.normalText⟩ : Path).course = p.course := by
  have hsteps : ∀ c ∈ furtherComponents p.text.toList, c.IsStep := fun c hc =>
    isStep_of_mem_furtherComponents hc
  rw [normalText, ← textOfComponents_filter]
  cases habsolute : p.isAbsolute with
  | true =>
    have hcourse := course_of_absolute habsolute
    rw [← course, hcourse, course_textOfComponents_root hsteps]
  | false =>
    have hcourse := course_of_relative habsolute
    rw [← course, hcourse, course_textOfComponents hsteps]

/-- Names are written with slashes between them. -/
theorem textOfComponents_names (names : List String) (hnames : ∀ name ∈ names, IsName name) :
    textOfComponents (names.map .name) = (ofNames names).text := by
  rw [textOfComponents, foldl_pushComponent_names]
  by_cases hne : names = []
  · rw [hne]
    rfl
  · rw [foldl_pushSegment _ (by simpa using hne) (IsName.piece hnames)]
    rfl

/-! ## What a course tells -/

/-- A path is absolute if its course starts at the root directory. -/
theorem isAbsolute_iff_head? (p : Path) : p.isAbsolute = true ↔ p.course.head? = some .root := by
  cases habsolute : p.isAbsolute with
  | true => simp [course_of_absolute habsolute]
  | false =>
    rw [course_of_relative habsolute]
    constructor
    · intro h
      cases h
    · intro h
      exact absurd rfl (isStep_of_mem_furtherComponents (List.mem_of_mem_head? h)).ne_nil

theorem isAbsolute_normalText (p : Path) : (⟨p.normalText⟩ : Path).isAbsolute = p.isAbsolute := by
  rw [Bool.eq_iff_iff, isAbsolute_iff_head?, isAbsolute_iff_head?, course_normalText]

/-- A leading `.` is not hidden. -/
theorem any_isHidden_filter (cs : List Component) :
    (cs.filter (· ≠ .here)).any Component.isHidden = cs.any Component.isHidden := by
  rw [List.any_filter]
  congr 1
  funext c
  cases c <;> rfl

/-! ## Places -/

/-- Where one component leads from a location. -/
def Component.enter (l : Location) : Component → Location
  | .root => []
  | .here => l
  | .up => l.dropLast
  | .name text => l ++ [text]

/-- Where the course of a path leads from a location. -/
def place (p : Path) (l : Location) : Location :=
  p.course.foldl Component.enter l

theorem place_of_absolute {p : Path} (h : p.isAbsolute = true) (l : Location) :
    p.place l = p.place [] := by
  rw [place, place, course_of_absolute h]
  rfl

theorem place_join (base p : Path) (l : Location) :
    (base.join p).place l = p.place (base.place l) := by
  cases habsolute : p.isAbsolute with
  | true =>
    rw [place_of_absolute habsolute (base.place l), join, if_pos habsolute,
      place_of_absolute habsolute]
  | false =>
    rw [place, course_join, habsolute]
    exact List.foldl_append

/-- A path and its normal text lead to one place. -/
theorem place_normalText (p : Path) (l : Location) : (⟨p.normalText⟩ : Path).place l = p.place l := by
  rw [place, course_normalText, place]

theorem foldl_enter_names (l : Location) (names : List String) :
    (names.map Component.name).foldl Component.enter l = l ++ names := by
  induction names generalizing l with
  | nil => simp
  | cons name rest ih =>
    rw [List.map_cons, List.foldl_cons, ih]
    simp [Component.enter]

theorem place_ofNames {names : List String}
    (hnames : ∀ name ∈ names, IsName name ∧ isHiddenName name = false) (l : Location) :
    (ofNames names).place l = l ++ names := by
  rw [place, course_ofNames hnames, foldl_enter_names]

/-- Names put behind a path lead on from its place. -/
theorem place_below {p : Path} {names : List String} (hp : p.text ≠ "")
    (hnames : ∀ name ∈ names, IsName name ∧ isHiddenName name = false) (l : Location) :
    (p.below names).place l = p.place l ++ names := by
  rw [place, course_below hp hnames, List.foldl_append, foldl_enter_names, place]

end ModuleBundler.Path
