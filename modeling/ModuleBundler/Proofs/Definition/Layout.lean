/-
# ModuleBundler.Proofs.Definition.Layout -- what a recognised call looks like

The search for a definition call is stated here without searching. `Layout` names
the parts of a call from behind its token through the `{` that opens the function's
body, and `Layout.Valid` says which parts make an anonymous call. Main statements:
`detect_eq_anonymous_iff` and `detect_eq_named_iff`, what a text looks like in which
the search finds a call.

A layout does not mention the body. Whatever stands behind the `{`, the search finds
the same call (`detectArguments_layout`), and whatever stands behind the token decides nothing
about where the token is found.
-/

import Mathlib.Data.List.TakeWhile
import ModuleBundler.Definition
import ModuleBundler.Proofs.Text.Occurrence

namespace ModuleBundler

/-- Of the checks on the order of the parts, one decides: the searches for the `[` and for the
`{` start where the others want them to end. -/
theorem CallSpan.isOrdered_iff {s : CallSpan} (hdependencies : s.afterToken ≤ s.dependencies)
    (hbody : s.function < s.bodyStart) : s.isOrdered = true ↔ s.dependencies < s.function := by
  simp only [isOrdered, Bool.and_eq_true, decide_eq_true_eq]
  omega

namespace Definition

open Text (FirstBehind byteLength)

/-! ## A quote in front -/

/-- A character that is no white space decides whether a quote comes first. -/
theorem startsQuoted_append {front : List Char} {c : Char} (hc : c ∈ front)
    (hblank : Text.isBlank c = false) (rest : List Char) :
    startsQuoted (front ++ rest) = startsQuoted front := by
  have hne : front.dropWhile Text.isBlank ≠ [] := by
    intro hnil
    have := List.dropWhile_eq_nil_iff.mp hnil c hc
    rw [hblank] at this
    exact Bool.false_ne_true this
  unfold startsQuoted Text.trimStart
  rw [List.dropWhile_append]
  cases h : front.dropWhile Text.isBlank with
  | nil => exact absurd h hne
  | cons d behind => simp

/-- A quote that comes first stays the first character whatever follows. -/
theorem startsQuoted_append_of_startsQuoted {front : List Char} (h : startsQuoted front = true)
    (rest : List Char) : startsQuoted (front ++ rest) = true := by
  unfold startsQuoted Text.trimStart at *
  rw [List.dropWhile_append]
  cases hd : front.dropWhile Text.isBlank with
  | nil => simp [hd] at h
  | cons d behind => simpa [hd] using h

theorem startsQuoted_quote (rest : List Char) : startsQuoted ('\'' :: rest) = true := by
  have hblank : Text.isBlank '\'' = false := by decide
  rw [startsQuoted, Text.trimStart, List.dropWhile_cons_of_neg (by simp [hblank])]
  rfl

/-! ## The layout of a call -/

/-- The parts of an anonymous call from behind its token: what stands before the
`[`, from there to the word `function`, and from there to the `{`. -/
structure Layout where
  toBracket : List Char
  between : List Char
  toBrace : List Char
  deriving DecidableEq, Repr

namespace Layout

/-- What stands before the word `function`. -/
def toFunction (l : Layout) : List Char :=
  l.toBracket ++ '[' :: l.between

/-- The call from behind its token through the `{`. -/
def opening (l : Layout) : List Char :=
  l.toFunction ++ functionWord ++ l.toBrace ++ ['\x7b']

/-- Where the parts stand in a text whose token ends at `afterToken`. -/
def span (l : Layout) (afterToken : Nat) : CallSpan where
  afterToken := afterToken
  dependencies := afterToken + byteLength l.toBracket
  function := afterToken + byteLength l.toFunction
  bodyStart := afterToken + byteLength l.opening

/-- The parts are those of an anonymous call: no quote comes first, and each mark
is the first of its kind. -/
structure Valid (l : Layout) : Prop where
  unquoted : startsQuoted l.opening = false
  bracket : '[' ∉ l.toBracket
  function : FirstBehind functionWord l.toFunction (l.toFunction ++ functionWord)
  brace : '\x7b' ∉ l.toBrace

theorem bracket_mem_opening (l : Layout) : '[' ∈ l.opening := by
  simp [opening, toFunction]

theorem startsQuoted_opening_append (l : Layout) (body : List Char) :
    startsQuoted (l.opening ++ body) = startsQuoted l.opening :=
  startsQuoted_append l.bracket_mem_opening (by decide) body

theorem byteLength_toBracket_lt (l : Layout) :
    byteLength l.toBracket < byteLength l.toFunction := by
  have hpos : 0 < '['.utf8Size := by decide
  simp only [toFunction, Text.byteLength_append, byteLength]
  omega

theorem byteLength_opening (l : Layout) :
    byteLength l.opening =
      byteLength l.toFunction + byteLength functionWord + byteLength l.toBrace + 1 := by
  simp only [opening, Text.byteLength_append]
  rfl

theorem byteLength_toFunction_lt (l : Layout) :
    byteLength l.toFunction < byteLength l.opening := by
  rw [l.byteLength_opening]
  omega

end Layout

/-! ## Arguments -/

/-- A valid layout is recognised, whatever stands behind it. -/
theorem detectArguments_layout {l : Layout} (h : l.Valid) (afterToken : Nat) (body : List Char) :
    detectArguments afterToken (l.opening ++ body) = .anonymous (l.span afterToken) := by
  have hquoted : startsQuoted (l.opening ++ body) = false := by
    rw [l.startsQuoted_opening_append, h.unquoted]
  have hbracket : Text.splitFirst? ['['] (l.opening ++ body) =
      some (l.toBracket, l.between ++ functionWord ++ l.toBrace ++ ['\x7b'] ++ body) := by
    rw [Text.splitFirst?_eq_some_iff, Text.firstBehind_singleton_iff]
    have htext : l.opening ++ body = l.toBracket ++ ['['] ++
        (l.between ++ functionWord ++ l.toBrace ++ ['\x7b'] ++ body) := by
      simp [Layout.opening, Layout.toFunction]
    exact ⟨htext, ⟨_, htext.symm⟩, h.bracket⟩
  have hfunction : Text.splitFirst? functionWord (l.opening ++ body) =
      some (l.toFunction, l.toBrace ++ ['\x7b'] ++ body) := by
    have htext : l.opening ++ body =
        l.toFunction ++ functionWord ++ (l.toBrace ++ ['\x7b'] ++ body) := by
      simp [Layout.opening]
    rw [Text.splitFirst?_eq_some_iff]
    exact ⟨htext, h.function.of_isPrefix ⟨_, htext.symm⟩⟩
  have hbrace : Text.splitFirst? ['\x7b'] (l.toBrace ++ ['\x7b'] ++ body) =
      some (l.toBrace, body) := by
    rw [Text.splitFirst?_eq_some_iff, Text.firstBehind_singleton_iff]
    exact ⟨rfl, List.prefix_append _ _, h.brace⟩
  have hspan : (⟨afterToken, afterToken + byteLength l.toBracket,
      afterToken + byteLength l.toFunction, afterToken + byteLength l.toFunction +
        byteLength functionWord + byteLength l.toBrace + 1⟩ : CallSpan) = l.span afterToken := by
    simp only [Layout.span, l.byteLength_opening, Nat.add_assoc]
  have hordered : (l.span afterToken).isOrdered = true := by
    rw [CallSpan.isOrdered_iff (Nat.le_add_right _ _)]
    · exact Nat.add_lt_add_left l.byteLength_toBracket_lt afterToken
    · exact Nat.add_lt_add_left l.byteLength_toFunction_lt afterToken
  simp only [detectArguments, hquoted, hbracket, hfunction, hbrace, hspan, hordered]
  rfl

/-- The pieces that the searches return are a valid layout, if the `[` stands before
the word `function`. -/
theorem exists_layout {arguments toBracket toFunction toBrace : List Char}
    {behindBracket afterFunction body : List Char} (hquoted : startsQuoted arguments = false)
    (hbracket : Text.splitFirst? ['['] arguments = some (toBracket, behindBracket))
    (hfunction : Text.splitFirst? functionWord arguments = some (toFunction, afterFunction))
    (hbrace : Text.splitFirst? ['\x7b'] afterFunction = some (toBrace, body))
    (hlt : byteLength toBracket < byteLength toFunction) :
    ∃ between, (Layout.mk toBracket between toBrace).Valid ∧
      arguments = (Layout.mk toBracket between toBrace).opening ++ body ∧
      toFunction = toBracket ++ '[' :: between := by
  obtain ⟨hb, hbFirst⟩ := Text.splitFirst?_eq_some_iff.mp hbracket
  obtain ⟨hf, hfFirst⟩ := Text.splitFirst?_eq_some_iff.mp hfunction
  obtain ⟨hr, hrFirst⟩ := Text.splitFirst?_eq_some_iff.mp hbrace
  have hfPrefix : toFunction <+: arguments := (List.prefix_append _ _).trans hfFirst.1
  -- Both are front parts of the arguments, and the one through the `[` is the shorter.
  have hinside : toBracket ++ ['['] <+: toFunction := by
    refine List.prefix_of_prefix_length_le hbFirst.1 hfPrefix ?_
    by_contra hlong
    have hle : toFunction.length ≤ toBracket.length := by
      simp only [List.length_append, List.length_singleton] at hlong
      omega
    obtain ⟨more, rfl⟩ := List.prefix_of_prefix_length_le hfPrefix
      ((List.prefix_append _ _).trans hbFirst.1) hle
    rw [Text.byteLength_append] at hlt
    omega
  obtain ⟨between, rfl⟩ := hinside
  have htext : arguments = (Layout.mk toBracket between toBrace).opening ++ body := by
    rw [hf, hr]
    simp [Layout.opening, Layout.toFunction]
  refine ⟨between, ⟨?_, ?_, ?_, ?_⟩, htext, by simp⟩
  · rw [← Layout.startsQuoted_opening_append _ body, ← htext, hquoted]
  · exact (Text.firstBehind_singleton_iff.mp hbFirst).2
  · have hsame : Layout.toFunction ⟨toBracket, between, toBrace⟩ =
        toBracket ++ ['['] ++ between := by
      simp [Layout.toFunction]
    rw [hsame]
    exact hfFirst.of_isPrefix (List.prefix_refl _)
  · exact (Text.firstBehind_singleton_iff.mp hrFirst).2

/-- Arguments are those of an anonymous call exactly when they begin with a valid layout. -/
theorem detectArguments_eq_anonymous_iff {afterToken : Nat} {arguments : List Char}
    {span : CallSpan} :
    detectArguments afterToken arguments = .anonymous span ↔
      ∃ (l : Layout) (body : List Char), l.Valid ∧ arguments = l.opening ++ body ∧
        span = l.span afterToken := by
  constructor
  · intro h
    unfold detectArguments at h
    split at h
    · cases h
    · next hquoted =>
      split at h
      · cases h
      · next toBracket behindBracket hbracket =>
        split at h
        · cases h
        · next toFunction afterFunction hfunction =>
          split at h
          · cases h
          · next toBrace body hbrace =>
            dsimp only at h
            split at h
            · next hordered =>
              cases h
              have hlt : byteLength toBracket < byteLength toFunction := by
                rw [CallSpan.isOrdered_iff (Nat.le_add_right _ _) (by dsimp only; omega)] at hordered
                exact Nat.lt_of_add_lt_add_left hordered
              obtain ⟨between, hvalid, htext, hto⟩ :=
                exists_layout (by simpa using hquoted) hbracket hfunction hbrace hlt
              refine ⟨⟨toBracket, between, toBrace⟩, body, hvalid, htext, ?_⟩
              simp only [Layout.span, Layout.byteLength_opening, Layout.toFunction, hto,
                CallSpan.mk.injEq, true_and]
              omega
            · cases h
  · rintro ⟨l, body, hvalid, rfl, rfl⟩
    exact detectArguments_layout hvalid afterToken body

/-- Arguments are those of a named call exactly when a quote comes first. -/
theorem detectArguments_eq_named_iff {afterToken k : Nat} {arguments : List Char} :
    detectArguments afterToken arguments = .named k ↔
      startsQuoted arguments = true ∧ k = afterToken := by
  unfold detectArguments
  split
  · next h =>
    simp only [Detection.named.injEq, h, true_and]
    exact eq_comm
  · next h =>
    refine ⟨?_, fun hq => absurd hq.1 h⟩
    intro hnamed
    -- No other way through the searches ends in a named call.
    split at hnamed
    · cases hnamed
    · split at hnamed
      · cases hnamed
      · split at hnamed
        · cases hnamed
        · dsimp only at hnamed
          split at hnamed <;> cases hnamed

/-- Behind a token, no answer says that there is none. -/
theorem detectArguments_ne_tokenMissing {afterToken : Nat} {arguments : List Char} :
    detectArguments afterToken arguments ≠ .notAModule .tokenMissing := by
  unfold detectArguments
  split
  · nofun
  · split
    · nofun
    · split
      · nofun
      · split
        · nofun
        · dsimp only
          split <;> nofun

/-! ## Whole texts -/

/-- Behind the first token, the arguments decide. -/
theorem detect_of_firstBehind {token before text arguments : List Char} (hne : token ≠ [])
    (hfirst : FirstBehind token before text) (htext : text = before ++ token ++ arguments) :
    detect token text = detectArguments (byteLength (before ++ token)) arguments := by
  have hsplit : Text.splitFirst? token text = some (before, arguments) :=
    Text.splitFirst?_eq_some_iff.mpr ⟨htext, hfirst⟩
  have hempty : token.isEmpty = false := by simpa using hne
  rw [detect, hempty, hsplit, Text.byteLength_append]
  rfl

/-- Where a call is found there is a token, and the arguments behind the first one decide. -/
theorem exists_firstBehind_of_detect {token text : List Char}
    (h : detect token text ≠ .notAModule .tokenMissing) :
    token ≠ [] ∧ ∃ before arguments, FirstBehind token before text ∧
      text = before ++ token ++ arguments := by
  unfold detect at h
  split at h
  · exact absurd rfl h
  · next hne =>
    split at h
    · exact absurd rfl h
    · next before arguments hsplit =>
      obtain ⟨htext, hfirst⟩ := Text.splitFirst?_eq_some_iff.mp hsplit
      exact ⟨by simpa using hne, before, arguments, hfirst, htext⟩

/-- No token is found exactly if it is empty or does not stand in the text. -/
theorem detect_eq_tokenMissing_iff {token text : List Char} :
    detect token text = .notAModule .tokenMissing ↔ token = [] ∨ ¬ token <:+: text := by
  by_cases hne : token = []
  · simp [detect, hne]
  · have hempty : token.isEmpty = false := by simpa using hne
    rw [or_iff_right hne, ← Text.splitFirst?_eq_none_iff, detect, hempty]
    cases hsplit : Text.splitFirst? token text with
    | none => simp
    | some pieces => simpa using detectArguments_ne_tokenMissing

/-- An anonymous call is found exactly where the first token is followed by a valid layout. -/
theorem detect_eq_anonymous_iff {token text : List Char} {span : CallSpan} :
    detect token text = .anonymous span ↔
      token ≠ [] ∧ ∃ (before : List Char) (l : Layout) (body : List Char),
        FirstBehind token before text ∧ l.Valid ∧ text = before ++ token ++ (l.opening ++ body) ∧
        span = l.span (byteLength (before ++ token)) := by
  constructor
  · intro h
    have hfound : detect token text ≠ .notAModule .tokenMissing := by
      rw [h]
      nofun
    obtain ⟨hne, before, arguments, hfirst, htext⟩ := exists_firstBehind_of_detect hfound
    rw [detect_of_firstBehind hne hfirst htext] at h
    obtain ⟨l, body, hvalid, rfl, hspan⟩ := detectArguments_eq_anonymous_iff.mp h
    exact ⟨hne, before, l, body, hfirst, hvalid, htext, hspan⟩
  · rintro ⟨hne, before, l, body, hfirst, hvalid, htext, rfl⟩
    rw [detect_of_firstBehind hne hfirst htext]
    exact detectArguments_layout hvalid _ body

/-- A named call is found exactly where a quote follows the first token. -/
theorem detect_eq_named_iff {token text : List Char} {k : Nat} :
    detect token text = .named k ↔
      token ≠ [] ∧ ∃ before arguments, FirstBehind token before text ∧
        text = before ++ token ++ arguments ∧ startsQuoted arguments = true ∧
        k = byteLength (before ++ token) := by
  constructor
  · intro h
    have hfound : detect token text ≠ .notAModule .tokenMissing := by
      rw [h]
      nofun
    obtain ⟨hne, before, arguments, hfirst, htext⟩ := exists_firstBehind_of_detect hfound
    rw [detect_of_firstBehind hne hfirst htext] at h
    exact ⟨hne, before, arguments, hfirst, htext, detectArguments_eq_named_iff.mp h⟩
  · rintro ⟨hne, before, arguments, hfirst, htext, hquoted, rfl⟩
    rw [detect_of_firstBehind hne hfirst htext, detectArguments_eq_named_iff]
    exact ⟨hquoted, rfl⟩

/-- A named call is found whatever stands behind the text. -/
theorem detect_append_of_named {token text : List Char} {k : Nat}
    (h : detect token text = .named k) (rest : List Char) :
    detect token (text ++ rest) = .named k := by
  obtain ⟨hne, before, arguments, hfirst, htext, hquoted, hk⟩ := detect_eq_named_iff.mp h
  refine detect_eq_named_iff.mpr ⟨hne, before, arguments ++ rest, ?_, ?_, ?_, hk⟩
  · exact hfirst.of_isPrefix (hfirst.1.trans (List.prefix_append _ _))
  · rw [htext]
    simp
  · exact startsQuoted_append_of_startsQuoted hquoted rest

/-! ## Calls without their parts -/

/-- What stands behind the token of an anonymous call: no quote comes first, and the
word `function` first stands behind a `[` and in front of a `{`. -/
def OpensCall (arguments : List Char) : Prop :=
  startsQuoted arguments = false ∧ ∃ toFunction behind : List Char,
    arguments = toFunction ++ functionWord ++ behind ∧
    FirstBehind functionWord toFunction arguments ∧ '[' ∈ toFunction ∧ '\x7b' ∈ behind

theorem opensCall_iff {arguments : List Char} :
    OpensCall arguments ↔ ∃ (l : Layout) (body : List Char), l.Valid ∧
      arguments = l.opening ++ body := by
  constructor
  · rintro ⟨hquoted, toFunction, behind, htext, hfirst, hbracket, hbrace⟩
    obtain ⟨toBracket, between, rfl, hnotBracket⟩ := List.eq_append_cons_of_mem hbracket
    obtain ⟨toBrace, body, rfl, hnotBrace⟩ := List.eq_append_cons_of_mem hbrace
    have hopening : arguments = (Layout.mk toBracket between toBrace).opening ++ body := by
      rw [htext]
      simp [Layout.opening, Layout.toFunction]
    refine ⟨⟨toBracket, between, toBrace⟩, body, ⟨?_, hnotBracket, ?_, hnotBrace⟩, hopening⟩
    · rw [← Layout.startsQuoted_opening_append _ body, ← hopening, hquoted]
    · exact hfirst.of_isPrefix (List.prefix_refl _)
  · rintro ⟨l, body, hvalid, rfl⟩
    refine ⟨?_, l.toFunction, l.toBrace ++ '\x7b' :: body, ?_, ?_, ?_, ?_⟩
    · rw [l.startsQuoted_opening_append, hvalid.unquoted]
    · simp [Layout.opening]
    · refine hvalid.function.of_isPrefix ⟨l.toBrace ++ '\x7b' :: body, ?_⟩
      simp [Layout.opening]
    · simp [Layout.toFunction]
    · simp

/-- An anonymous call is found exactly where the first token is followed by one. -/
theorem exists_detect_eq_anonymous_iff {token text : List Char} :
    (∃ span, detect token text = .anonymous span) ↔
      token ≠ [] ∧ ∃ before arguments, FirstBehind token before text ∧
        text = before ++ token ++ arguments ∧ OpensCall arguments := by
  constructor
  · rintro ⟨span, h⟩
    obtain ⟨hne, before, l, body, hfirst, hvalid, htext, -⟩ := detect_eq_anonymous_iff.mp h
    exact ⟨hne, before, _, hfirst, htext, opensCall_iff.mpr ⟨l, body, hvalid, rfl⟩⟩
  · rintro ⟨hne, before, arguments, hfirst, htext, hopens⟩
    obtain ⟨l, body, hvalid, rfl⟩ := opensCall_iff.mp hopens
    exact ⟨_, detect_eq_anonymous_iff.mpr ⟨hne, before, l, body, hfirst, hvalid, htext, rfl⟩⟩

/-- A named call whose token comes first in a longer text is what is found there. -/
theorem detect_of_named_part {token front start text part back : List Char} {k : Nat}
    (hpart : detect token part = .named k) (htext : text = front ++ part ++ back)
    (hfirst : FirstBehind token (front ++ start) text) : ∃ k', detect token text = .named k' := by
  obtain ⟨hne, before, arguments, hbefore, rfl, hquoted, -⟩ := detect_eq_named_iff.mp hpart
  -- The first token of the whole text is not behind the one of the part, so it lies
  -- inside the part, and is the first one there.
  have hle : start.length ≤ before.length := by
    have hearlier : (front ++ before) ++ token <+: text := by
      rw [htext]
      exact ⟨arguments ++ back, by simp⟩
    have := hfirst.2 _ hearlier
    simp only [List.length_append] at this
    omega
  have hinside : start ++ token <+: before ++ token ++ arguments := by
    have hlong : start ++ token <+: (before ++ token ++ arguments) ++ back := by
      have := hfirst.1
      rwa [htext, List.append_assoc, List.append_assoc front, List.prefix_append_right_inj] at this
    refine List.prefix_of_prefix_length_le hlong (List.prefix_append _ _) ?_
    simp only [List.length_append]
    omega
  have hsame : start = before := by
    refine Text.eq_of_isPrefix_of_length ((List.prefix_append _ _).trans hinside)
      ((List.prefix_append _ _).trans hbefore.1) ?_
    exact le_antisymm hle (hbefore.2 _ hinside)
  subst hsame
  refine ⟨_, detect_eq_named_iff.mpr ⟨hne, _, arguments ++ back, hfirst, ?_, ?_, rfl⟩⟩
  · rw [htext]
    simp
  · exact startsQuoted_append_of_startsQuoted hquoted back

end Definition

end ModuleBundler
