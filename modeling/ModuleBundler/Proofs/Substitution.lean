/-
# ModuleBundler.Proofs.Substitution -- paths in the words of a command

A word of a command is a template: `parts` reads it once, from left to right, as characters that
stand for themselves and places for a path, and `substituted` puts the paths of a task into these
places. A path that was put in is not read again.

The command is made in another way, by two replacements one after the other, and the second one
reads what the first has put in. Main statement: `commandFor_substitutes_iff`, when the two agree.
They differ where the source path, alone or with the text around it, spells out the mark of the
destination (`Exposes`).
-/

import ModuleBundler.Compress
import ModuleBundler.Proofs.Text.Replacement

namespace ModuleBundler.Compress.Compressor

variable {src dest rest : List Char}

/-! ## Templates -/

/-- A part of a word: a character that stands for itself, or the place of a path. -/
inductive Part where
  | plain (c : Char)
  | src
  | dest
  deriving DecidableEq, Repr

/-- The parts of a word, read once from left to right. The first argument counts characters of
the mark last found that are still to be passed over. -/
def partsFrom : Nat → List Char → List Part
  | _, [] => []
  | passing + 1, _ :: rest => partsFrom passing rest
  | 0, c :: rest =>
    if srcMark.isPrefixOf (c :: rest) then .src :: partsFrom (srcMark.length - 1) rest
    else if destMark.isPrefixOf (c :: rest) then .dest :: partsFrom (destMark.length - 1) rest
    else .plain c :: partsFrom 0 rest

/-- The parts of a word. -/
def parts (word : List Char) : List Part :=
  partsFrom 0 word

/-- The text of a part, with paths in their places. -/
def Part.text (src dest : List Char) : Part → List Char
  | .plain c => [c]
  | .src => src
  | .dest => dest

/-- The text of parts, with paths in their places. -/
def filled (src dest : List Char) (ps : List Part) : List Char :=
  ps.flatMap (Part.text src dest)

/-- A word with the paths of a task in their places. -/
def substituted (t : Task) (word : String) : String :=
  String.ofList (filled t.src.text.toList t.dest.text.toList (parts word.toList))

/-- Between two places for the destination, what a word says with the source path in its places
holds the mark of the destination. -/
def Exposes (t : Task) (word : String) : Prop :=
  ∃ gap ∈ Text.splitOn .dest (parts word.toList),
    destMark <:+: filled t.src.text.toList t.dest.text.toList gap

/-! ## Reading a word -/

theorem srcMark_eq : srcMark = '\x7b' :: ['s', 'r', 'c', '\x7d'] := rfl

theorem destMark_eq : destMark = '\x7b' :: ['d', 'e', 's', 't', '\x7d'] := rfl

theorem partsFrom_length_append (passed : List Char) :
    partsFrom passed.length (passed ++ rest) = parts rest := by
  induction passed with
  | nil => rfl
  | cons c passed ih => exact ih

theorem not_srcMark_isPrefix_destMark : ¬ srcMark <+: destMark ++ rest := by
  rw [srcMark_eq, destMark_eq]
  simp [List.cons_prefix_cons]

theorem parts_srcMark : parts (srcMark ++ rest) = .src :: parts rest := by
  have hhere : srcMark.isPrefixOf ('\x7b' :: (['s', 'r', 'c', '\x7d'] ++ rest)) = true :=
    List.isPrefixOf_iff_prefix.mpr (List.prefix_append srcMark rest)
  rw [parts, srcMark_eq, List.cons_append, partsFrom, if_pos hhere]
  exact congrArg (Part.src :: ·) (partsFrom_length_append ['s', 'r', 'c', '\x7d'])

theorem parts_destMark : parts (destMark ++ rest) = .dest :: parts rest := by
  have hnot : ¬ srcMark.isPrefixOf ('\x7b' :: (['d', 'e', 's', 't', '\x7d'] ++ rest)) = true :=
    fun hhere => not_srcMark_isPrefix_destMark (List.isPrefixOf_iff_prefix.mp hhere)
  have hhere : destMark.isPrefixOf ('\x7b' :: (['d', 'e', 's', 't', '\x7d'] ++ rest)) = true :=
    List.isPrefixOf_iff_prefix.mpr (List.prefix_append destMark rest)
  rw [parts, destMark_eq, List.cons_append, partsFrom, if_neg hnot, if_pos hhere]
  exact congrArg (Part.dest :: ·) (partsFrom_length_append ['d', 'e', 's', 't', '\x7d'])

theorem parts_cons {c : Char} (hsrc : ¬ srcMark <+: c :: rest) (hdest : ¬ destMark <+: c :: rest) :
    parts (c :: rest) = .plain c :: parts rest := by
  have hnotSrc : ¬ srcMark.isPrefixOf (c :: rest) = true :=
    fun hhere => hsrc (List.isPrefixOf_iff_prefix.mp hhere)
  have hnotDest : ¬ destMark.isPrefixOf (c :: rest) = true :=
    fun hhere => hdest (List.isPrefixOf_iff_prefix.mp hhere)
  rw [parts, partsFrom, if_neg hnotSrc, if_neg hnotDest]
  rfl

/-- A word is gone through as its parts are read. -/
theorem word_induction {motive : List Char → Prop} (nil : motive [])
    (src : ∀ rest, motive rest → motive (srcMark ++ rest))
    (dest : ∀ rest, motive rest → motive (destMark ++ rest))
    (plain : ∀ c rest, ¬ srcMark <+: c :: rest → ¬ destMark <+: c :: rest → motive rest →
      motive (c :: rest))
    (word : List Char) : motive word := by
  have hne : ∀ mark ∈ [srcMark, destMark], mark ≠ [] := by decide
  refine Text.scan_induction hne nil ?_ ?_ word
  · intro mark hmark rest ih
    rcases List.mem_pair.mp hmark with rfl | rfl
    · exact src rest ih
    · exact dest rest ih
  · intro c rest hnot ih
    have hsrc : ¬ srcMark <+: c :: rest := hnot _ (List.mem_pair.mpr (.inl rfl))
    have hdest : ¬ destMark <+: c :: rest := hnot _ (List.mem_pair.mpr (.inr rfl))
    exact plain c rest hsrc hdest ih

@[simp] theorem filled_cons (p : Part) (ps : List Part) :
    filled src dest (p :: ps) = p.text src dest ++ filled src dest ps := rfl

/-- Nothing of a word is lost: with the marks in their places, its parts are the word. -/
theorem filled_marks (word : List Char) : filled srcMark destMark (parts word) = word := by
  induction word using word_induction with
  | nil => rfl
  | src rest ih => rw [parts_srcMark, filled_cons, ih, Part.text]
  | dest rest ih => rw [parts_destMark, filled_cons, ih, Part.text]
  | plain c rest hsrc hdest ih =>
    rw [parts_cons hsrc hdest, filled_cons, ih, Part.text]
    rfl

/-! ## The two replacements -/

/-- The first replacement puts the source path into its places, and keeps the other marks. -/
theorem replaceAll_srcMark (src word : List Char) :
    Text.replaceAll srcMark src word = filled src destMark (parts word) := by
  induction word using word_induction with
  | nil => rfl
  | src rest ih =>
    rw [parts_srcMark, filled_cons, ← ih]
    exact Text.replaceAll_append_self
  | dest rest ih =>
    have hnot : ¬ srcMark <+: '\x7b' :: (['d', 'e', 's', 't', '\x7d'] ++ rest) :=
      not_srcMark_isPrefix_destMark
    have hbehind : Text.replaceAll srcMark src (['d', 'e', 's', 't', '\x7d'] ++ rest) =
        ['d', 'e', 's', 't', '\x7d'] ++ Text.replaceAll srcMark src rest :=
      Text.replaceAll_append_of_notMem (by decide)
    rw [parts_destMark, filled_cons, ← ih]
    show Text.replaceAll srcMark src ('\x7b' :: (['d', 'e', 's', 't', '\x7d'] ++ rest)) = _
    rw [Text.replaceAll_cons hnot, hbehind]
    rfl
  | plain c rest hsrc hdest ih =>
    rw [parts_cons hsrc hdest, filled_cons, ← ih, Text.replaceAll_cons hsrc]
    rfl

/-- The text of gaps, with the destination between them. -/
theorem filled_joinWith (gaps : List (List Part)) :
    filled src dest (Text.joinWith .dest gaps) = dest.intercalate (gaps.map (filled src dest)) := by
  induction gaps with
  | nil => rfl
  | cons gap gaps ih =>
    cases gaps with
    | nil => rw [Text.joinWith, List.map_singleton, List.intercalate_singleton]
    | cons next gaps =>
      rw [Text.joinWith_cons _ _ (List.cons_ne_nil _ _), List.map_cons, List.map_cons,
        List.intercalate_cons_cons, ← List.map_cons, ← ih, filled, List.flatMap_append,
        List.append_assoc]
      rfl

/-- Where no destination goes, it does not matter which one it is. -/
theorem filled_congr {gap : List Part} (h : Part.dest ∉ gap) (dest dest' : List Char) :
    filled src dest gap = filled src dest' gap := by
  induction gap with
  | nil => rfl
  | cons p gap ih =>
    rw [List.mem_cons, not_or] at h
    rw [filled_cons, filled_cons, ih h.2]
    cases p with
    | plain c => rfl
    | src => rfl
    | dest => exact absurd rfl h.1

/-- The second replacement puts in the destination, and changes nothing else exactly if no gap
between its places holds its mark. -/
theorem replaceAll_destMark_eq_iff (ps : List Part) :
    Text.replaceAll destMark dest (filled src destMark ps) = filled src dest ps ↔
      dest = destMark ∨ ∀ gap ∈ Text.splitOn .dest ps, ¬ destMark <:+: filled src dest gap := by
  have hgaps : (Text.splitOn .dest ps).map (filled src destMark) =
      (Text.splitOn .dest ps).map (filled src dest) := by
    refine List.map_congr_left fun gap hgap => ?_
    exact filled_congr (Text.not_mem_of_mem_splitOn hgap) _ _
  have hmarked := @filled_joinWith src destMark (Text.splitOn .dest ps)
  have hmeant := @filled_joinWith src dest (Text.splitOn .dest ps)
  rw [Text.joinWith_splitOn] at hmarked hmeant
  rw [hmarked, hmeant, hgaps]
  have hmark : '\x7b' ∉ ['d', 'e', 's', 't', '\x7d'] := by decide
  have hpieces := @Text.replaceAll_intercalate_eq_iff Char _ dest _ _ hmark
    ((Text.splitOn .dest ps).map (filled src dest))
  rw [← destMark_eq, List.forall_mem_map] at hpieces
  exact hpieces

/-- A word is filled in as it is meant exactly if it does not expose a mark, or the destination
is the mark itself. -/
theorem fill_eq_substituted_iff (t : Task) (word : String) :
    fill t word = substituted t word ↔ t.dest.text = String.ofList destMark ∨ ¬ Exposes t word := by
  have hdest : t.dest.text = String.ofList destMark ↔ t.dest.text.toList = destMark := by
    rw [← String.toList_inj, String.toList_ofList]
  rw [fill, substituted, String.ofList_inj, replaceAll_srcMark, replaceAll_destMark_eq_iff, hdest,
    Exposes]
  simp only [not_exists, not_and]

/-! ## Paths that spell out no mark -/

/-- A path that is no part of a mark, whatever stands around it: it holds no brace, and some
character that the mark of the destination does not hold. -/
structure Inert (path : List Char) : Prop where
  opening : '\x7b' ∉ path
  closing : '\x7d' ∉ path
  foreign : ∃ c ∈ path, c ∉ destMark

/-- The rest of a mark that stands in front of a filled word stands in front of the word. -/
theorem Inert.isPrefix_of_isPrefix_filled (h : Inert src) (word : List Char) :
    ∀ {behind : List Char}, behind ≠ [] → behind <:+ ['d', 'e', 's', 't', '\x7d'] →
      behind <+: filled src destMark (parts word) → behind <+: word := by
  induction word using word_induction with
  | nil => exact fun _ _ hhere => hhere
  | src rest ih =>
    intro behind hne hmark hhere
    rw [parts_srcMark, filled_cons, Part.text] at hhere
    -- It would end in the path, or the path would be a part of it.
    rcases List.prefix_or_prefix_of_prefix hhere (List.prefix_append _ _) with hends | hholds
    · have hlast : behind <:+ ['d', 'e', 's', 't'] ++ ['\x7d'] := hmark
      rcases List.suffix_concat_iff.mp hlast with hnil | ⟨front, rfl, -⟩
      · exact absurd hnil hne
      · exact absurd (hends.subset (by simp)) h.closing
    · obtain ⟨c, hc, hforeign⟩ := h.foreign
      exact absurd (List.mem_cons_of_mem _ (hmark.subset (hholds.subset hc))) hforeign
  | dest rest ih =>
    intro behind hne hmark hhere
    rw [parts_destMark, filled_cons, Part.text, destMark_eq, List.cons_append] at hhere
    obtain ⟨c, behind, rfl⟩ := List.exists_cons_of_ne_nil hne
    obtain rfl : c = '\x7b' := (List.cons_prefix_cons.mp hhere).1
    exact absurd (hmark.subset List.mem_cons_self) (by decide)
  | plain c rest hsrc hdest ih =>
    intro behind hne hmark hhere
    rw [parts_cons hsrc hdest, filled_cons, Part.text, List.singleton_append] at hhere
    obtain ⟨d, behind, rfl⟩ := List.exists_cons_of_ne_nil hne
    obtain ⟨rfl, htail⟩ := List.cons_prefix_cons.mp hhere
    rw [List.cons_prefix_cons]
    refine ⟨rfl, ?_⟩
    by_cases hnil : behind = []
    · rw [hnil]
      exact List.nil_prefix
    · exact ih hnil ((List.suffix_cons _ _).trans hmark) htail

/-- With a path that spells out no mark, every word is filled in as it is meant. -/
theorem Inert.replaceAll_destMark (h : Inert src) (word : List Char) :
    Text.replaceAll destMark dest (filled src destMark (parts word)) =
      filled src dest (parts word) := by
  induction word using word_induction with
  | nil => rfl
  | src rest ih =>
    rw [parts_srcMark, filled_cons, filled_cons, ← ih]
    exact Text.replaceAll_append_of_notMem h.opening
  | dest rest ih =>
    rw [parts_destMark, filled_cons, filled_cons, ← ih]
    exact Text.replaceAll_append_self
  | plain c rest hsrc hdest ih =>
    have hnot : ¬ destMark <+: c :: filled src destMark (parts rest) := by
      intro hhere
      obtain ⟨rfl, hbehind⟩ := List.cons_prefix_cons.mp hhere
      have hword : ['d', 'e', 's', 't', '\x7d'] <+: rest :=
        h.isPrefix_of_isPrefix_filled rest (List.cons_ne_nil _ _) List.suffix_rfl hbehind
      exact hdest (List.cons_prefix_cons.mpr ⟨rfl, hword⟩)
    rw [parts_cons hsrc hdest, filled_cons, filled_cons, ← ih]
    exact Text.replaceAll_cons hnot

theorem fill_of_inert {t : Task} (h : Inert t.src.text.toList) (word : String) :
    fill t word = substituted t word := by
  rw [fill, substituted, replaceAll_srcMark, h.replaceAll_destMark]

/-! ## Commands -/

/-- **The words of a command.** There are as many as the template has, and each one is the word
of the template with the paths in their places, exactly if the source path does not spell out
the mark of the destination there; with a path that is no part of a mark it never does. -/
theorem commandFor_substitutes_iff (c : Compressor) (t : Task) :
    (c.commandFor t).length = c.command.length ∧
    (∀ word, fill t word = substituted t word ↔
      t.dest.text = String.ofList destMark ∨ ¬ Exposes t word) ∧
    (c.commandFor t = c.command.map (substituted t) ↔
      ∀ word ∈ c.command, t.dest.text = String.ofList destMark ∨ ¬ Exposes t word) ∧
    (Inert t.src.text.toList → c.commandFor t = c.command.map (substituted t)) := by
  refine ⟨List.length_map _, fill_eq_substituted_iff t, ?_, ?_⟩
  · rw [commandFor, List.map_inj_left]
    exact forall₂_congr fun word _ => fill_eq_substituted_iff t word
  · intro h
    exact List.map_congr_left fun word _ => fill_of_inert h word

/-- A path with a mark in its name is put in, and then read again. -/
theorem commandFor_rereads_path :
    let c : Compressor := ⟨["min", "\x7bsrc\x7d", "-o", "\x7bdest\x7d"], ⟨"."⟩⟩
    let t : Task := ⟨"app", ⟨"www/\x7bdest\x7d.js"⟩, ⟨"www/\x7bdest\x7d.js"⟩⟩
    c.commandFor t = ["min", "www/www/\x7bdest\x7d.js.js", "-o", "www/\x7bdest\x7d.js"] ∧
      c.command.map (substituted t) =
        ["min", "www/\x7bdest\x7d.js", "-o", "www/\x7bdest\x7d.js"] ∧
      c.commandFor t ≠ c.command.map (substituted t) := by
  decide +kernel

/-- A path without braces completes a mark that the template has begun. -/
example :
    fill ⟨"app", ⟨"st"⟩, ⟨"a.js"⟩⟩ "\x7bde\x7bsrc\x7d\x7d" = "a.js" ∧
      substituted ⟨"app", ⟨"st"⟩, ⟨"a.js"⟩⟩ "\x7bde\x7bsrc\x7d\x7d" = "\x7bdest\x7d" := by
  decide +kernel

end ModuleBundler.Compress.Compressor
