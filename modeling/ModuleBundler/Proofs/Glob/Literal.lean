/-
# ModuleBundler.Proofs.Glob.Literal -- what a glob spells out at its front

A glob begins with text that holds none of the marks `*`, `?`, `[` and the opening brace. Such
text is taken as it is, but for its backslashes: each of them takes the next character, a slash
included, and stands for nothing itself (`unescaped`).

Main statement: `exists_behind_of_accepts`. A path that a glob matches begins with what the
glob spells out, followed by a slash. What is read behind that slash changes nothing about it:
a `**` there may put itself in the place of the slash, and still begins with one
(`State.Leads`).
-/

import ModuleBundler.Expansion
import ModuleBundler.Proofs.Text.Utf8Order

namespace ModuleBundler.Glob

open InputPattern (isGlobMark)
open Text (splitOn)

/-! ## Reading behind a slash -/

/-- A part that matches only what begins with a slash. -/
inductive Token.StartsSlash : Token → Prop
  | literal : StartsSlash (.literal '/')
  | treeSuffix : StartsSlash .treeSuffix
  | treeBetween : StartsSlash .treeBetween

namespace State

/-- The parts of the whole pattern that were read so far, last one first, without those of the
choice that is being read. -/
def outerRow (s : State) : List Token :=
  match s.choices.getLast? with
  | some choice => choice.before
  | none => s.row

/-- The pattern begins with some parts and goes on with one that starts with a slash. -/
def Leads (front : List Token) (s : State) : Prop :=
  ∃ token more, token.StartsSlash ∧ s.outerRow.reverse = front ++ token :: more

variable {s s' : State} {front : List Token}

theorem outerRow_of_nil (h : s.choices = []) : s.outerRow = s.row := by
  rw [outerRow, h]
  rfl

/-- What is read within a choice is not yet part of the whole pattern. -/
theorem outerRow_of_ne_nil (hne : s.choices ≠ []) (h : s'.choices = s.choices) :
    s'.outerRow = s.outerRow := by
  obtain ⟨choice, outer, hchoices⟩ := List.exists_cons_of_ne_nil hne
  simp only [outerRow, h, hchoices, List.getLast?_cons]

theorem Leads.of_outerRow_eq (h : s.Leads front) (heq : s'.outerRow = s.outerRow) :
    s'.Leads front := by
  unfold Leads at *
  rwa [heq]

/-- One part more behind the front. -/
theorem Leads.of_outerRow_cons {token : Token} (h : s.Leads front)
    (heq : s'.outerRow = token :: s.outerRow) : s'.Leads front := by
  obtain ⟨first, more, hfirst, hrow⟩ := h
  refine ⟨first, more ++ [token], hfirst, ?_⟩
  rw [heq, List.reverse_cons, hrow]
  simp

theorem Leads.push (h : s.Leads front) (token : Token) : (s.push token).Leads front := by
  by_cases hchoices : s.choices = []
  · have hrow : (s.push token).outerRow = token :: s.outerRow := by
      rw [outerRow_of_nil hchoices, outerRow_of_nil (by exact hchoices)]
      rfl
    exact h.of_outerRow_cons hrow
  · exact h.of_outerRow_eq (outerRow_of_ne_nil hchoices rfl)

theorem Leads.openChoice (h : s.Leads front) : s.openChoice.Leads front := by
  refine h.of_outerRow_eq ?_
  unfold outerRow State.openChoice
  cases hchoices : s.choices with
  | nil => rfl
  | cons choice outer => simp only [List.getLast?_cons, Option.getD_some]

theorem Leads.comma (h : s.Leads front) : s.comma.Leads front := by
  unfold State.comma
  split
  · exact h.push _
  · next choice outer hchoices =>
    refine h.of_outerRow_eq ?_
    unfold outerRow
    rw [hchoices]
    cases outer with
    | nil => rfl
    | cons second more => simp only [List.getLast?_cons, Option.getD_some]

theorem Leads.closeChoice (h : s.Leads front) (hclose : s.closeChoice = .ok s') :
    s'.Leads front := by
  unfold State.closeChoice at hclose
  split at hclose
  · cases hclose
  · next choice outer hchoices =>
    obtain rfl := Except.ok.inj hclose
    cases outer with
    | nil =>
      have hbefore : s.outerRow = choice.before := by
        rw [outerRow, hchoices]
        rfl
      exact h.of_outerRow_cons (congrArg _ hbefore.symm)
    | cons second more =>
      refine h.of_outerRow_eq ?_
      simp only [outerRow, hchoices, List.getLast?_cons, Option.getD_some]

theorem Leads.classChar {k : OpenClass} {c : Char} (h : s.Leads front)
    (hread : s.classChar k c = .ok s') : s'.Leads front := by
  unfold State.classChar at hread
  split at hread
  · obtain rfl := Except.ok.inj hread
    exact h
  · split at hread
    · obtain rfl := Except.ok.inj hread
      exact h.push k.close
    · split at hread
      · obtain rfl := Except.ok.inj hread
        exact h
      · cases hadd : k.add c with
        | error e =>
          rw [hadd] at hread
          cases hread
        | ok k' =>
          rw [hadd] at hread
          obtain rfl := Except.ok.inj hread
          exact h

/-- A `**` in the place of the slash starts with one itself. -/
theorem Leads.replaceSlash {token : Token} (h : s.Leads front) (htoken : token.StartsSlash) :
    (s.replaceSlash token).Leads front := by
  unfold State.replaceSlash
  split
  · exact h
  · exact h
  · next last before _ _ hrow =>
    by_cases hchoices : s.choices = []
    · obtain ⟨first, more, hfirst, hreverse⟩ := h
      rw [outerRow_of_nil hchoices, hrow, List.reverse_cons] at hreverse
      unfold Leads
      rw [outerRow_of_nil (by exact hchoices), List.reverse_cons]
      -- What is replaced is the slash itself, or a part behind it.
      rcases List.eq_nil_or_concat more with rfl | ⟨between, last', rfl⟩
      · refine ⟨token, [], htoken, ?_⟩
        rw [List.append_cancel_right_eq]
        exact List.append_inj_left' hreverse rfl
      · refine ⟨first, between ++ [token], hfirst, ?_⟩
        have hbefore : before.reverse = front ++ first :: between := by
          rw [List.concat_eq_append, ← List.cons_append, ← List.append_assoc] at hreverse
          exact List.append_inj_left' hreverse rfl
        rw [hbefore]
        simp
    · exact h.of_outerRow_eq (outerRow_of_ne_nil hchoices rfl)
  · exact h.push token

theorem Leads.doubleStar (h : s.Leads front) (next : Option Char) :
    (s.doubleStar next).1.Leads front := by
  have hplain : ((s.push .anyRun).push .anyRun).Leads front := (h.push _).push _
  unfold State.doubleStar
  dsimp only
  split
  · split
    · exact h.push _
    · split
      · exact h.push _
      · exact hplain
  · split
    · split
      · exact h.replaceSlash .treeSuffix
      · split
        · exact h.replaceSlash .treeSuffix
        · split
          · exact h.replaceSlash .treeBetween
          · exact hplain
    · exact hplain

/-- A pattern whose front was read keeps it to its end. -/
theorem Leads.parseFrom {text : List Char} {tokens : List Token} (h : s.Leads front)
    (hparse : parseFrom s text = .ok tokens) :
    ∃ token more, token.StartsSlash ∧ tokens = front ++ token :: more := by
  fun_induction Glob.parseFrom s text with
  | case1 s =>
    unfold State.finish at hparse
    split at hparse
    · cases hparse
    · split at hparse
      · next hchoices =>
        obtain rfl := Except.ok.inj hparse
        obtain ⟨token, more, htoken, hrow⟩ := h
        rw [outerRow_of_nil (by simpa using hchoices)] at hrow
        exact ⟨token, more, htoken, hrow⟩
      · cases hparse
  | case2 s d rest seen k hopen s' hread ih => exact ih (Leads.classChar (s := seen) h hread) hparse
  | case3 => cases hparse
  | case4 s rest hopen seen ih => exact ih (Leads.push (s := seen) h _) hparse
  | case5 s hopen s' next behind _ hstar ih =>
    rw [hstar] at hparse
    have hleads := h.doubleStar (next :: behind).head?
    rw [hstar] at hleads
    exact ih hleads hparse
  | case6 s hopen s' taken behind hnot _ hstar ih =>
    rw [hstar] at hparse
    have hleads := h.doubleStar behind.head?
    rw [hstar] at hleads
    refine ih hleads ?_
    split at hparse
    · next heq => exact absurd (congrArg Prod.snd heq) (fun htaken => hnot _ _ rfl htaken)
    · next heq _ =>
      obtain ⟨rfl, rfl⟩ := Prod.mk.inj heq
      exact hparse
  | case7 s hopen rest _ seen _ ih => exact ih (Leads.push (s := seen) h _) hparse
  | case8 s rest hopen seen _ _ ih => exact ih h hparse
  | case9 s rest hopen seen _ _ _ ih => exact ih (Leads.openChoice (s := seen) h) hparse
  | case10 s rest hopen s' seen _ _ _ _ hclose ih =>
    exact ih (Leads.closeChoice (s := seen) h hclose) hparse
  | case11 => cases hparse
  | case12 s rest hopen seen _ _ _ _ _ ih => exact ih (Leads.comma (s := seen) h) hparse
  | case13 => cases hparse
  | case14 s hopen d rest seen _ _ _ _ _ _ ih => exact ih (Leads.push (s := seen) h _) hparse
  | case15 s d rest seen hopen _ _ _ _ _ _ _ ih => exact ih (Leads.push (s := seen) h _) hparse

end State

/-! ## Reading the front -/

/-- What text without a mark stands for: a backslash takes the next character as it is. -/
def unescaped : List Char → List Char
  | [] => []
  | c :: rest =>
    if c = '\\' then
      match rest with
      | [] => []
      | d :: rest => d :: unescaped rest
    else c :: unescaped rest

theorem length_unescaped_le (text : List Char) : (unescaped text).length ≤ text.length := by
  fun_induction unescaped text with
  | case1 => rfl
  | case2 => exact Nat.zero_le _
  | case3 d rest ih =>
    rw [List.length_cons, List.length_cons, List.length_cons]
    omega
  | case4 c rest _ ih => exact Nat.succ_le_succ ih

/-- Text stands for itself exactly if it holds no backslash. -/
theorem unescaped_eq_self_iff {text : List Char} : unescaped text = text ↔ '\\' ∉ text := by
  fun_induction unescaped text with
  | case1 => simp
  | case2 => simp
  | case3 d rest ih =>
    -- The escape is shorter than what it is written as.
    have hle := length_unescaped_le rest
    refine iff_of_false (fun h => ?_) (by simp)
    have hlength := congrArg List.length h
    simp only [List.length_cons] at hlength
    omega
  | case4 c rest hc ih =>
    rw [List.cons_inj_right, ih, List.mem_cons, not_or]
    exact ⟨fun h => ⟨Ne.symm hc, h⟩, fun h => h.2⟩

theorem forall₂_splitOn_cons (c : Char) {mark : Char} {a b : List Char}
    (h : List.Forall₂ List.Sublist (splitOn mark a) (splitOn mark b)) :
    List.Forall₂ List.Sublist (splitOn mark (c :: a)) (splitOn mark (c :: b)) := by
  by_cases hc : c = mark
  · simp only [splitOn, if_pos hc]
    exact .cons (.refl _) h
  · simp only [splitOn, if_neg hc]
    generalize splitOn mark a = pieces at h ⊢
    generalize splitOn mark b = pieces' at h ⊢
    cases h with
    | nil => exact .cons (.refl _) .nil
    | cons hpiece hrest => exact .cons (hpiece.cons_cons c) hrest

theorem forall₂_splitOn_cons_right {c mark : Char} (hc : c ≠ mark) {a b : List Char}
    (h : List.Forall₂ List.Sublist (splitOn mark a) (splitOn mark b)) :
    List.Forall₂ List.Sublist (splitOn mark a) (splitOn mark (c :: b)) := by
  simp only [splitOn, if_neg hc]
  have hne := Text.splitOn_ne_nil mark b
  generalize splitOn mark a = pieces at h ⊢
  generalize splitOn mark b = pieces' at h hne ⊢
  cases h with
  | nil => exact absurd rfl hne
  | cons hpiece hrest => exact .cons (hpiece.cons c) hrest

/-- What a piece between slashes stands for is made of its characters. -/
theorem forall₂_sublist_splitOn_unescaped (text : List Char) :
    List.Forall₂ List.Sublist (splitOn '/' (unescaped text)) (splitOn '/' text) := by
  have hbackslash : '\\' ≠ '/' := by decide
  fun_induction unescaped text with
  | case1 => exact .cons (.refl _) .nil
  | case2 => exact .cons (List.nil_sublist _) .nil
  | case3 d rest ih =>
    exact forall₂_splitOn_cons_right hbackslash (forall₂_splitOn_cons d ih)
  | case4 c rest _ ih => exact forall₂_splitOn_cons c ih

/-- One more character that stands for itself. -/
def State.takes (s : State) (c : Char) : State :=
  { s with row := .literal c :: s.row, previous := some c }

/-- Outside of choices and classes, a character that is no mark stands for itself. -/
theorem parseFrom_plain {s : State} {c : Char} {rest : List Char} {tokens : List Token}
    (hopen : s.openClass = none) (hchoices : s.choices = []) (hmark : isGlobMark c = false)
    (hc : c ≠ '\\') (hparse : parseFrom s (c :: rest) = .ok tokens) :
    parseFrom (s.takes c) rest = .ok tokens := by
  simp only [isGlobMark, Bool.or_eq_false_iff, beq_eq_false_iff_ne] at hmark
  obtain ⟨⟨⟨hstar, hone⟩, hclass⟩, hchoice⟩ := hmark
  obtain ⟨row, choices, openClass, previous⟩ := s
  dsimp only at hopen hchoices
  subst hopen hchoices
  rw [parseFrom.eq_def] at hparse
  simp only [if_neg hstar, if_neg hone, if_neg hclass, if_neg hchoice, if_neg hc] at hparse
  by_cases hclose : c = '\x7d'
  · -- There is no choice that it could close.
    rw [if_pos hclose, State.closeChoice] at hparse
    cases hparse
  · rw [if_neg hclose] at hparse
    by_cases hcomma : c = ','
    · rw [if_pos hcomma, hcomma] at hparse
      rw [hcomma]
      exact hparse
    · rw [if_neg hcomma] at hparse
      exact hparse

/-- A backslash takes the next character as it is. -/
theorem parseFrom_escape {s : State} (hopen : s.openClass = none) (d : Char) (rest : List Char) :
    parseFrom s ('\\' :: d :: rest) = parseFrom (s.takes d) rest := by
  obtain ⟨row, choices, openClass, previous⟩ := s
  dsimp only at hopen
  subst hopen
  rw [parseFrom.eq_def]
  rfl

/-- A front without a mark is read as the characters that it stands for, through the slash
behind it. -/
theorem parseFrom_front {s : State} {front rest : List Char} {tokens : List Token}
    (hopen : s.openClass = none) (hchoices : s.choices = [])
    (hfront : ∀ c ∈ front, isGlobMark c = false)
    (hparse : parseFrom s (front ++ '/' :: rest) = .ok tokens) :
    ∃ s' : State, s'.choices = [] ∧
      s'.row.reverse = s.row.reverse ++ (unescaped front).map .literal ++ [.literal '/'] ∧
      parseFrom s' rest = .ok tokens := by
  fun_induction unescaped front generalizing s with
  | case1 =>
    have hslash := parseFrom_plain hopen hchoices (by decide) (by decide) hparse
    exact ⟨s.takes '/', hchoices, by simp [State.takes], hslash⟩
  | case2 =>
    -- The backslash takes the slash.
    rw [List.singleton_append, parseFrom_escape hopen] at hparse
    exact ⟨s.takes '/', hchoices, by simp [State.takes], hparse⟩
  | case3 d more ih =>
    rw [List.cons_append, List.cons_append, parseFrom_escape hopen] at hparse
    have hmore : ∀ c ∈ more, isGlobMark c = false := fun c hc => hfront c (by simp [hc])
    obtain ⟨s', hchoices', hrow, hrest⟩ := @ih (s.takes d) hopen hchoices hmore hparse
    exact ⟨s', hchoices', by rw [hrow]; simp [State.takes], hrest⟩
  | case4 c more hc ih =>
    have hplain := parseFrom_plain hopen hchoices (hfront c List.mem_cons_self) hc hparse
    have hmore : ∀ d ∈ more, isGlobMark d = false := fun d hd => hfront d (by simp [hd])
    obtain ⟨s', hchoices', hrow, hrest⟩ := @ih (s.takes c) hopen hchoices hmore hplain
    exact ⟨s', hchoices', by rw [hrow]; simp [State.takes], hrest⟩

/-- A glob with a front without a mark begins with what the front stands for, and goes on with
a part that starts with a slash. -/
theorem exists_parts_of_parse {front rest : List Char} {tokens : List Token}
    (hfront : ∀ c ∈ front, isGlobMark c = false) (hparse : parse (front ++ '/' :: rest) = .ok tokens) :
    ∃ token more, token.StartsSlash ∧
      tokens = (unescaped front).map .literal ++ token :: more := by
  obtain ⟨s, hchoices, hrow, hrest⟩ := parseFrom_front rfl rfl hfront hparse
  have hleads : s.Leads ((unescaped front).map .literal) := by
    refine ⟨.literal '/', [], .literal, ?_⟩
    rw [State.outerRow_of_nil hchoices, hrow]
    simp
  exact hleads.parseFrom hrest

/-! ## Matching the front -/

/-- A byte of a set of one byte is that byte. -/
theorem contains_single_iff {b c : UInt8} : (ByteSet.single b).contains c = true ↔ c = b := by
  simp only [ByteSet.single, ByteSet.contains, List.any_cons, List.any_nil, Bool.or_false,
    bne_iff_ne, ne_eq, Bool.not_eq_false, Bool.and_eq_true, decide_eq_true_eq]
  constructor
  · rintro ⟨hle, hge⟩
    exact UInt8.le_antisymm hge hle
  · rintro rfl
    exact ⟨UInt8.le_refl _, UInt8.le_refl _⟩

theorem matches_single_iff {b : UInt8} {w : List UInt8} :
    (Regex.byte (.single b)).Matches w ↔ w = [b] := by
  constructor
  · intro h
    cases h with
    | byte hcontains => rw [contains_single_iff.mp hcontains]
  · rintro rfl
    exact .byte (contains_single_iff.mpr rfl)

/-- Bytes one behind the other match nothing but themselves. -/
theorem eq_of_matches_bytes {bytes w : List UInt8}
    (h : (sequence (bytes.map fun b => Regex.byte (.single b))).Matches w) : w = bytes := by
  induction bytes generalizing w with
  | nil =>
    cases h
    rfl
  | cons b rest ih =>
    cases rest with
    | nil => exact matches_single_iff.mp h
    | cons c more =>
      obtain ⟨u, v, rfl, hu, hv⟩ := Regex.matches_seq_iff.mp h
      rw [matches_single_iff.mp hu, ih hv]
      rfl

/-- A row of parts matches a text; a row that writes nothing matches the empty one. -/
def RowMatches (row : List Token) (w : List UInt8) : Prop :=
  ((rowRegex? row).getD .nothing).Matches w

/-- A row matches what its first part matches, and then what the others do. -/
theorem RowMatches.exists_append {token : Token} {row : List Token} {r : Regex} {w : List UInt8}
    (h : RowMatches (token :: row) w) (htoken : token.regex? = some r) :
    ∃ u v, w = u ++ v ∧ r.Matches u ∧ RowMatches row v := by
  unfold RowMatches at *
  rw [rowRegex?, htoken] at h
  cases hrow : rowRegex? row with
  | none =>
    rw [hrow] at h
    exact ⟨w, [], (List.append_nil w).symm, h, .nothing⟩
  | some s =>
    rw [hrow] at h
    exact Regex.matches_seq_iff.mp h

/-- A part that starts with a slash matches only what begins with one. -/
theorem Token.StartsSlash.exists_cons {token : Token} (h : token.StartsSlash) :
    ∃ r, token.regex? = some r ∧ ∀ w, r.Matches w → ∃ v, w = slash :: v := by
  -- Where the slash is followed by something, it is a byte in front of it.
  have hseq (s : Regex) (w : List UInt8) (hw : (Regex.seq oneSlash s).Matches w) :
      ∃ v, w = slash :: v := by
    obtain ⟨u, v, rfl, hu, -⟩ := Regex.matches_seq_iff.mp hw
    exact ⟨v, by rw [matches_single_iff.mp hu]; rfl⟩
  cases h with
  | literal => exact ⟨_, rfl, fun w hw => ⟨[], eq_of_matches_bytes hw⟩⟩
  | treeSuffix => exact ⟨_, rfl, hseq anything⟩
  | treeBetween =>
    refine ⟨_, rfl, fun w hw => ?_⟩
    rcases Regex.matches_alt_iff.mp hw with hslash | hbetween
    · exact ⟨[], matches_single_iff.mp hslash⟩
    · exact hseq _ w hbetween

/-- A row that begins with characters matches only what begins with them. -/
theorem RowMatches.exists_behind {front : List Char} {token : Token} {more : List Token}
    {w : List UInt8} (h : RowMatches (front.map .literal ++ token :: more) w)
    (htoken : token.StartsSlash) :
    ∃ behind, w = (front ++ ['/']).flatMap String.utf8EncodeChar ++ behind := by
  induction front generalizing w with
  | nil =>
    obtain ⟨r, hr, hslash⟩ := htoken.exists_cons
    obtain ⟨u, v, rfl, hu, -⟩ := h.exists_append hr
    obtain ⟨behind, rfl⟩ := hslash u hu
    exact ⟨behind ++ v, rfl⟩
  | cons c rest ih =>
    obtain ⟨u, v, rfl, hu, hv⟩ := h.exists_append rfl
    obtain ⟨behind, rfl⟩ := ih hv
    refine ⟨behind, ?_⟩
    rw [eq_of_matches_bytes hu, List.cons_append, List.flatMap_cons, List.append_assoc]
    rfl

/-- **What a glob spells out begins all that it matches.** If a glob begins with text without a
mark and a slash, a path that it matches begins with what the text stands for, and a slash. -/
theorem exists_behind_of_accepts {front rest : List Char} {tokens : List Token} {path : String}
    (hfront : ∀ c ∈ front, isGlobMark c = false) (hparse : parse (front ++ '/' :: rest) = .ok tokens)
    (haccepts : accepts tokens path = true) :
    ∃ behind, path.toList = unescaped front ++ '/' :: behind := by
  obtain ⟨token, more, htoken, rfl⟩ := exists_parts_of_parse hfront hparse
  have hmatches := (Regex.accepts_iff _ _).mp haccepts
  have hrow : RowMatches ((unescaped front).map .literal ++ token :: more) path.toUTF8.toList := by
    unfold patternRegex at hmatches
    split at hmatches
    · next heq =>
      -- A pattern that is only `**` does not start with a slash.
      cases hliteral : unescaped front with
      | nil =>
        rw [hliteral] at heq
        obtain ⟨rfl, -⟩ := List.cons.inj heq
        cases htoken
      | cons c more =>
        rw [hliteral] at heq
        cases heq
    · exact hmatches
  obtain ⟨behind, hbytes⟩ := hrow.exists_behind htoken
  have hprefix : unescaped front ++ ['/'] <+: path.toList := by
    refine Text.isPrefix_of_flatMap_utf8EncodeChar ?_
    rw [← Text.toUTF8_toList, hbytes]
    exact List.prefix_append _ _
  obtain ⟨behind, hpath⟩ := hprefix
  exact ⟨behind, by rw [← hpath, List.append_assoc]; rfl⟩

end ModuleBundler.Glob
