/-
# ModuleBundler.Proofs.Path.Naming -- names put behind a path

A path is written in many ways, and putting a name behind it looks at how it is written.
Its components do not: joining adds the components of what is put behind
(`components_join`), and names add themselves (`components_below`). Names can be read
back from the text that a list of components is written as
(`textOfComponents_append_names_inj`), so that different files below one directory are
shown in different ways.
-/

import ModuleBundler.Path

namespace ModuleBundler.Path

open Text (splitOn joinWith joinWith_cons)

/-! ## Names -/

theorem IsName.toList_ne_nil {name : String} (h : IsName name) : name.toList ≠ [] :=
  fun hnil => h.ne_empty (String.toList_eq_nil_iff.mp hnil)

/-! ## Components of joined paths -/

/-- The components that the text behind a slash stands for. -/
def furtherComponents (text : List Char) : List Component :=
  ((splitOn '/' text).filter (!isSilent ·)).map component

theorem isSilent_eq_false_iff {segment : List Char} :
    isSilent segment = false ↔ segment ≠ [] ∧ segment ≠ ['.'] := by
  rw [isSilent, Bool.or_eq_false_iff, beq_eq_false_iff_ne, beq_eq_false_iff_ne]

theorem isEmpty_append_splitOn (pieces : List (List Char)) (text : List Char) :
    (pieces ++ splitOn '/' text).isEmpty = false := by
  rw [List.isEmpty_eq_false_iff]
  exact List.append_ne_nil_of_right_ne_nil _ (Text.splitOn_ne_nil '/' text)

/-- The text behind a slash adds its components. -/
theorem components_of_slash {p : Path} {front back : List Char}
    (h : p.text.toList = front ++ '/' :: back) :
    p.components =
      (⟨String.ofList (front ++ ['/'])⟩ : Path).components ++ furtherComponents back := by
  obtain ⟨first, rest, hfront⟩ := List.exists_cons_of_ne_nil (Text.splitOn_ne_nil '/' front)
  simp only [components, segments, h, String.toList_ofList, Text.splitOn_append_mark, hfront,
    List.cons_append, isEmpty_append_splitOn, furtherComponents]
  simp [splitOn, isSilent]

/-- A slash behind a path that is not empty says nothing. -/
theorem components_of_trailing {front : List Char} (hne : front ≠ []) :
    (⟨String.ofList (front ++ ['/'])⟩ : Path).components =
      (⟨String.ofList front⟩ : Path).components := by
  obtain ⟨first, rest, hfront⟩ := List.exists_cons_of_ne_nil (Text.splitOn_ne_nil '/' front)
  -- Only the empty path starts at the root directory because of the slash.
  have hleading : leading first true = leading first (!rest.isEmpty) := by
    cases rest with
    | cons second more => rfl
    | nil =>
      have hjoined := Text.joinWith_splitOn '/' front
      rw [hfront] at hjoined
      have hfirst : first ≠ [] := fun h => hne (by rw [← hjoined, h]; rfl)
      rw [leading, leading, if_neg hfirst, if_neg hfirst]
  simp only [components, segments, String.toList_ofList, Text.splitOn_append_mark, hfront,
    List.cons_append, isEmpty_append_splitOn, ← hleading]
  simp [splitOn, isSilent]

/-- Only the empty path has no component. -/
theorem components_ne_nil {p : Path} (hp : p.text ≠ "") : p.components ≠ [] := by
  obtain ⟨first, rest, hsplit⟩ := List.exists_cons_of_ne_nil (Text.splitOn_ne_nil '/' p.text.toList)
  have hleading : leading first (!rest.isEmpty) ≠ [] := by
    unfold leading
    split
    · next hfirst =>
      have hjoined := Text.joinWith_splitOn '/' p.text.toList
      rw [hsplit, hfirst] at hjoined
      cases rest with
      | nil => exact absurd (String.toList_eq_nil_iff.mp hjoined.symm) hp
      | cons second more => simp
    · split <;> simp
  simp only [components, segments, hsplit]
  exact List.append_ne_nil_of_left_ne_nil hleading _

theorem mk_ofList_toList (p : Path) : (⟨String.ofList p.text.toList⟩ : Path) = p := by
  rw [String.ofList_toList]

theorem exists_slash_of_isAbsolute {p : Path} (h : p.isAbsolute = true) :
    ∃ back, p.text.toList = '/' :: back := by
  simpa [isAbsolute, List.head?_eq_some_iff] using h

/-- A joined path is its base, a slash and what is put behind; the slash may be the base's own. -/
theorem exists_front_of_join {base p : Path} (hbase : base.text ≠ "") (hp : p.isAbsolute = false) :
    ∃ front, (base.join p).text.toList = front ++ '/' :: p.text.toList ∧
      (base.text.toList = front ∨ base.text.toList = front ++ ['/']) := by
  have hne : base.text.toList ≠ [] := fun h => hbase (String.toList_eq_nil_iff.mp h)
  by_cases hslash : base.text.toList.getLast? = some '/'
  · obtain ⟨front, hfront⟩ := List.getLast?_eq_some_iff.mp hslash
    exact ⟨front, by simp [join, hp, hfront], .inr hfront⟩
  · exact ⟨base.text.toList, by simp [join, hp, hne, hslash], .inl rfl⟩

/-- Joining adds the components of the path that is put behind. -/
theorem components_join {base p : Path} (hbase : base.text ≠ "") (hp : p.isAbsolute = false) :
    (base.join p).components = base.components ++ furtherComponents p.text.toList := by
  obtain ⟨front, hjoin, hfront | hfront⟩ := exists_front_of_join hbase hp
  · have hne : front ≠ [] := fun h => hbase (String.toList_eq_nil_iff.mp (hfront.trans h))
    rw [components_of_slash hjoin, components_of_trailing hne, ← hfront, mk_ofList_toList]
  · rw [components_of_slash hjoin, ← hfront, mk_ofList_toList]

/-- A path that is not absolute is seen behind the components of its base. -/
theorem components_isPrefix_join {base p : Path} (hp : p.isAbsolute = false) :
    base.components <+: (base.join p).components := by
  by_cases hbase : base.text = ""
  · have hnone : base.components = [] := by
      simp [components, segments, hbase, splitOn, leading]
    rw [hnone]
    exact List.nil_prefix
  · rw [components_join hbase hp]
    exact List.prefix_append _ _

/-! ## Names below a path -/

/-- The path that names lead to from `p`. -/
def below (p : Path) (names : List String) : Path :=
  names.foldl (fun path name => path.join ⟨name⟩) p

theorem isAbsolute_name {name : String} (h : IsName name) : (⟨name⟩ : Path).isAbsolute = false := by
  obtain ⟨c, rest, hcons⟩ := List.exists_cons_of_ne_nil h.toList_ne_nil
  have hc : c ≠ '/' := by
    rintro rfl
    exact h.no_slash (by simp [hcons])
  simp [isAbsolute, hcons, hc]

/-- A name that is not hidden is one component. -/
theorem furtherComponents_name {name : String} (h : IsName name)
    (hvisible : isHiddenName name = false) : furtherComponents name.toList = [.name name] := by
  obtain ⟨c, rest, hcons⟩ := List.exists_cons_of_ne_nil h.toList_ne_nil
  have hdot : c ≠ '.' := by simpa [isHiddenName, hcons] using hvisible
  have hself : String.ofList (c :: rest) = name := by rw [← hcons, String.ofList_toList]
  rw [furtherComponents, Text.splitOn_of_not_mem h.no_slash, hcons]
  simp [isSilent, component, hdot, hself]

theorem join_name_ne_empty {p : Path} {name : String} (h : IsName name) :
    (p.join ⟨name⟩).text ≠ "" := by
  have hname := h.toList_ne_nil
  intro hempty
  have hnil : (p.join ⟨name⟩).text.toList = [] := by rw [hempty]; rfl
  unfold join at hnil
  rw [isAbsolute_name h, if_neg (by simp)] at hnil
  split at hnil
  · simp [hname] at hnil
  · simp at hnil

/-- Names that are not hidden add themselves to the components of a path. -/
theorem components_below {p : Path} {names : List String} (hp : p.text ≠ "")
    (hnames : ∀ name ∈ names, IsName name ∧ isHiddenName name = false) :
    (p.below names).components = p.components ++ names.map .name := by
  induction names generalizing p with
  | nil => simp [below]
  | cons name rest ih =>
    obtain ⟨hname, hvisible⟩ := hnames name (by simp)
    have hrest : ∀ n ∈ rest, IsName n ∧ isHiddenName n = false := fun n hn =>
      hnames n (List.mem_cons_of_mem _ hn)
    show ((p.join ⟨name⟩).below rest).components = _
    rw [ih (join_name_ne_empty hname) hrest, components_join hp (isAbsolute_name hname),
      furtherComponents_name hname hvisible]
    simp

/-! ## Segments behind a text -/

/-- The text written so far, ready for one more segment. -/
def withSlash (written : List Char) : List Char :=
  if written = [] || written.getLast? == some '/' then written else written ++ ['/']

theorem pushSegment_eq (written segment : List Char) :
    pushSegment written segment = withSlash written ++ segment := by
  unfold pushSegment withSlash
  split <;> simp

/-- Joining writes a path behind its base as a segment is written behind others. -/
theorem toList_join {p q : Path} (hq : q.isAbsolute = false) :
    (p.join q).text.toList = pushSegment p.text.toList q.text.toList := by
  rw [join, hq, if_neg (by simp), pushSegment]
  split <;> simp

theorem isAbsolute_join {base p : Path} (hbase : base.text ≠ "") (hp : p.isAbsolute = false) :
    (base.join p).isAbsolute = base.isAbsolute := by
  have hne : base.text.toList ≠ [] := fun h => hbase (String.toList_eq_nil_iff.mp h)
  obtain ⟨c, rest, hcons⟩ := List.exists_cons_of_ne_nil hne
  rw [isAbsolute, isAbsolute, toList_join hp, pushSegment_eq, withSlash]
  split <;> simp [hcons]

theorem toList_below (p : Path) {names : List String} (hnames : ∀ name ∈ names, IsName name) :
    (p.below names).text.toList = (names.map String.toList).foldl pushSegment p.text.toList := by
  induction names generalizing p with
  | nil => rfl
  | cons name rest ih =>
    have hjoin := toList_join (p := p) (isAbsolute_name (hnames name List.mem_cons_self))
    show ((p.join ⟨name⟩).below rest).text.toList = _
    rw [ih _ fun n hn => hnames n (List.mem_cons_of_mem _ hn), hjoin]
    rfl

theorem below_append (p : Path) (names more : List String) :
    p.below (names ++ more) = (p.below names).below more :=
  List.foldl_append

/-- A segment leaves no slash at the end. -/
theorem withSlash_append (written : List Char) {segment : List Char} (hne : segment ≠ [])
    (hslash : '/' ∉ segment) : withSlash (written ++ segment) = written ++ segment ++ ['/'] := by
  obtain ⟨front, c, hsnoc⟩ := (List.eq_nil_or_concat segment).resolve_left hne
  have hc : c ≠ '/' := by
    rintro rfl
    exact hslash (by simp [hsnoc])
  simp [withSlash, hsnoc, hc]

/-- Segments are written with single slashes between them. -/
theorem foldl_pushSegment (written : List Char) {segments : List (List Char)} (hne : segments ≠ [])
    (h : ∀ segment ∈ segments, segment ≠ [] ∧ '/' ∉ segment) :
    segments.foldl pushSegment written = withSlash written ++ joinWith '/' segments := by
  induction segments generalizing written with
  | nil => exact absurd rfl hne
  | cons segment rest ih =>
    obtain ⟨hsegment, hslash⟩ := h segment (by simp)
    rw [List.foldl_cons, pushSegment_eq]
    cases rest with
    | nil => rfl
    | cons second more =>
      rw [ih _ (by simp) fun s hs => h s (List.mem_cons_of_mem _ hs),
        withSlash_append _ hsegment hslash, joinWith_cons '/' segment (by simp)]
      simp

/-! ## Names with slashes between them -/

theorem IsName.piece {names : List String} (hnames : ∀ name ∈ names, IsName name) :
    ∀ piece ∈ names.map String.toList, piece ≠ [] ∧ '/' ∉ piece := by
  intro piece hpiece
  obtain ⟨name, hmem, rfl⟩ := List.mem_map.mp hpiece
  exact ⟨(hnames name hmem).toList_ne_nil, (hnames name hmem).no_slash⟩

/-- The path that names with slashes between them are. -/
def ofNames (names : List String) : Path :=
  ⟨String.ofList (joinWith '/' (names.map String.toList))⟩

theorem toList_ofNames (names : List String) :
    (ofNames names).text.toList = joinWith '/' (names.map String.toList) :=
  String.toList_ofList

theorem splitOn_ofNames {names : List String} (hne : names ≠ [])
    (hnames : ∀ name ∈ names, IsName name) :
    splitOn '/' (ofNames names).text.toList = names.map String.toList := by
  rw [toList_ofNames]
  exact Text.splitOn_joinWith (by simpa using hne) fun piece hpiece =>
    (IsName.piece hnames piece hpiece).2

theorem isAbsolute_ofNames {names : List String} (hnames : ∀ name ∈ names, IsName name) :
    (ofNames names).isAbsolute = false := by
  cases names with
  | nil => rfl
  | cons name rest =>
    obtain ⟨c, more, hcons⟩ :=
      List.exists_cons_of_ne_nil (hnames name List.mem_cons_self).toList_ne_nil
    have hc : c ≠ '/' := by
      rintro rfl
      exact (hnames name List.mem_cons_self).no_slash (by simp [hcons])
    cases rest <;> simp [isAbsolute, toList_ofNames, joinWith, hcons, hc]

/-- Names are put behind a path one by one, or all together with slashes between them. -/
theorem join_ofNames (p : Path) {names : List String} (hne : names ≠ [])
    (hnames : ∀ name ∈ names, IsName name) : p.join (ofNames names) = p.below names := by
  have htext : (p.join (ofNames names)).text.toList = (p.below names).text.toList := by
    rw [toList_join (isAbsolute_ofNames hnames), pushSegment_eq, toList_below p hnames,
      foldl_pushSegment _ (by simpa using hne) (IsName.piece hnames), toList_ofNames]
  exact congrArg Path.mk (String.toList_inj.mp htext)

/-- Where nothing is put behind a path, the slash that comes with it makes no difference to
what follows. -/
theorem join_join_nothing (p : Path) {q : Path} (hq : q.isAbsolute = false) :
    (p.join ⟨""⟩).join q = p.join q := by
  have hready : withSlash (withSlash p.text.toList) = withSlash p.text.toList := by
    unfold withSlash
    split
    · rfl
    · simp
  have hjoin : (p.join ⟨""⟩).text.toList = withSlash p.text.toList := by
    rw [toList_join rfl, pushSegment_eq]
    exact List.append_nil _
  have htext : ((p.join ⟨""⟩).join q).text.toList = (p.join q).text.toList := by
    rw [toList_join hq, toList_join hq, pushSegment_eq, pushSegment_eq, hjoin, hready]
  exact congrArg Path.mk (String.toList_inj.mp htext)

/-! ## Names in the text of components -/

theorem foldl_pushComponent_names (written : List Char) (names : List String) :
    (names.map Component.name).foldl pushComponent written =
      (names.map String.toList).foldl pushSegment written := by
  rw [List.foldl_map, List.foldl_map]
  rfl

/-- Names are read back from the text that ends in them. -/
theorem textOfComponents_append_names_inj {front : List Component} {names names' : List String}
    (hne : names ≠ []) (hnames : ∀ name ∈ names, IsName name)
    (hne' : names' ≠ []) (hnames' : ∀ name ∈ names', IsName name)
    (h : textOfComponents (front ++ names.map .name) =
      textOfComponents (front ++ names'.map .name)) : names = names' := by
  have hpieces := IsName.piece hnames
  have hpieces' := IsName.piece hnames'
  have hne : names.map String.toList ≠ [] := by simpa using hne
  have hne' : names'.map String.toList ≠ [] := by simpa using hne'
  have hwritten := congrArg String.toList h
  simp only [textOfComponents, String.toList_ofList, List.foldl_append,
    foldl_pushComponent_names] at hwritten
  rw [foldl_pushSegment _ hne hpieces, foldl_pushSegment _ hne' hpieces'] at hwritten
  have hjoined := congrArg (splitOn '/') (List.append_cancel_left hwritten)
  rw [Text.splitOn_joinWith hne fun s hs => (hpieces s hs).2,
    Text.splitOn_joinWith hne' fun s hs => (hpieces' s hs).2] at hjoined
  exact (List.map_inj_right fun a b hab => String.toList_inj.mp hab).mp hjoined

end ModuleBundler.Path
