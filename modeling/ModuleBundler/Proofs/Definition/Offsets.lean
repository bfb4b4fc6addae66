/-
# ModuleBundler.Proofs.Definition.Offsets -- the search for a call, by byte offsets

`Judged` says what a text is judged to be by the offsets at which the marks of a call first
stand in it, and by nothing else: no search, no pieces and no check on the order of what was
found. The answer of the search is the one that a text is judged to have (`detect_eq_iff`).

Every offset that is used to cut the text falls between two of its characters, and the cuts
stand in order. Main statement: `detect_exact`.
-/

import ModuleBundler.Proofs.Definition.Layout
import ModuleBundler.Proofs.Text.Position

namespace ModuleBundler

open Text (byteLength FirstFrom NoneFrom FirstBehind IsBoundary)

/-- A text can be cut where the parts of a call stand, and the parts stand in order. -/
structure CallSpan.CutsIn (s : CallSpan) (text : List Char) : Prop where
  dependencies : s.afterToken ≤ s.dependencies
  function : s.dependencies < s.function
  body : s.function + 8 < s.bodyStart
  inside : s.bodyStart ≤ byteLength text
  boundaries : ∀ offset ∈ [s.afterToken, s.dependencies, s.function, s.bodyStart],
    IsBoundary offset text

namespace Definition

variable {token text front rest : List Char} {a : Nat}

/-! ## What a text is judged to be -/

/-- The first character from an offset on that is no white space is a quote. -/
def QuotedFrom (start : Nat) (text : List Char) : Prop :=
  ∃ front blanks quote behind, text = front ++ (blanks ++ quote :: behind) ∧
    byteLength front = start ∧ (∀ c ∈ blanks, Text.isBlank c = true) ∧
    (quote = '\'' ∨ quote = '"')

/-- What a call is judged to be whose token ends at the offset `a`: the marks are looked for
from there on, and the `{` from the word `function` on. -/
inductive JudgedFrom (text : List Char) (a : Nat) : Detection → Prop
  | named : QuotedFrom a text → JudgedFrom text a (.named a)
  | dependenciesMissing : ¬ QuotedFrom a text → NoneFrom ['['] a text →
      JudgedFrom text a (.notAModule .dependenciesMissing)
  | functionMissing {d : Nat} : ¬ QuotedFrom a text → FirstFrom ['['] a d text →
      NoneFrom functionWord a text → JudgedFrom text a (.notAModule .functionMissing)
  | bodyMissing {d f : Nat} : ¬ QuotedFrom a text → FirstFrom ['['] a d text →
      FirstFrom functionWord a f text → NoneFrom ['\x7b'] f text →
      JudgedFrom text a (.notAModule .bodyMissing)
  | anonymous {d f b : Nat} : ¬ QuotedFrom a text → FirstFrom ['['] a d text →
      FirstFrom functionWord a f text → FirstFrom ['\x7b'] f b text → d < f →
      JudgedFrom text a (.anonymous ⟨a, d, f, b + 1⟩)
  | outOfOrder {d f b : Nat} : ¬ QuotedFrom a text → FirstFrom ['['] a d text →
      FirstFrom functionWord a f text → FirstFrom ['\x7b'] f b text → f < d →
      JudgedFrom text a (.notAModule .outOfOrder)

/-- What a text is judged to be: the empty token never occurs, and the first one decides. -/
inductive Judged (token text : List Char) : Detection → Prop
  | tokenMissing : token = [] ∨ NoneFrom token 0 text →
      Judged token text (.notAModule .tokenMissing)
  | arguments {t : Nat} {found : Detection} : token ≠ [] → FirstFrom token 0 t text →
      JudgedFrom text (t + byteLength token) found → Judged token text found

/-! ## Searches from an offset -/

/-- The search behind a front part finds the offset of the first occurrence. -/
theorem firstFrom_of_splitFirst? {needle before after : List Char} (front : List Char)
    (h : Text.splitFirst? needle rest = some (before, after)) :
    FirstFrom needle (byteLength front) (byteLength front + byteLength before) (front ++ rest) :=
  Text.firstFrom_append_iff.mpr ⟨before, (Text.splitFirst?_eq_some_iff.mp h).2, rfl⟩

theorem noneFrom_of_splitFirst? {needle : List Char} (front : List Char)
    (h : Text.splitFirst? needle rest = none) :
    NoneFrom needle (byteLength front) (front ++ rest) :=
  Text.noneFrom_append_iff.mpr (Text.splitFirst?_eq_none_iff.mp h)

/-- A quote comes first behind a front part. -/
theorem quotedFrom_iff :
    QuotedFrom (byteLength front) (front ++ rest) ↔ startsQuoted rest = true := by
  constructor
  · rintro ⟨front', blanks, quote, behind, htext, hlen, hblanks, hquote⟩
    obtain rfl : front' = front := Text.eq_of_append_eq_of_byteLength htext.symm hlen
    rw [List.append_cancel_left htext, startsQuoted, Text.trimStart,
      List.dropWhile_append_of_pos hblanks]
    -- A quote is no white space.
    rcases hquote with rfl | rfl
    · rfl
    · rfl
  · intro hquoted
    unfold startsQuoted Text.trimStart at hquoted
    split at hquoted
    · next quote behind hbehind =>
      refine ⟨front, rest.takeWhile Text.isBlank, quote, behind, ?_, rfl, ?_, ?_⟩
      · rw [← hbehind, List.takeWhile_append_dropWhile]
      · intro c hc
        exact List.mem_takeWhile_imp hc
      · simpa using hquoted
    · cases hquoted

theorem brace_notMem_functionWord : '\x7b' ∉ functionWord := by decide

/-- No `{` stands inside the word `function`, so the search for it may as well start behind. -/
theorem firstFrom_brace_iff {b : Nat} :
    FirstFrom ['\x7b'] (byteLength front) b (front ++ (functionWord ++ rest)) ↔
      ∃ before, FirstBehind ['\x7b'] before rest ∧
        b = byteLength front + byteLength functionWord + byteLength before := by
  rw [Text.firstFrom_append_iff]
  constructor
  · rintro ⟨before, hfirst, rfl⟩
    obtain ⟨behind, rfl, hbehind⟩ :=
      (Text.firstBehind_singleton_append_iff brace_notMem_functionWord).mp hfirst
    exact ⟨behind, hbehind, by rw [Text.byteLength_append, Nat.add_assoc]⟩
  · rintro ⟨behind, hbehind, rfl⟩
    refine ⟨functionWord ++ behind, ?_, by rw [Text.byteLength_append, Nat.add_assoc]⟩
    exact (Text.firstBehind_singleton_append_iff brace_notMem_functionWord).mpr
      ⟨behind, rfl, hbehind⟩

theorem noneFrom_brace_iff :
    NoneFrom ['\x7b'] (byteLength front) (front ++ (functionWord ++ rest)) ↔ '\x7b' ∉ rest := by
  rw [Text.noneFrom_append_iff, List.singleton_infix_iff, List.mem_append,
    or_iff_right brace_notMem_functionWord]

/-! ## The order of what is found -/

/-- The `[` and the word `function` never stand at one offset. -/
theorem bracket_ne_function {d f : Nat} (hd : FirstFrom ['['] a d text)
    (hf : FirstFrom functionWord a f text) : d ≠ f := by
  rintro rfl
  have hsame : '[' = 'f' := hd.occurs.head_eq hf.occurs
  exact absurd hsame (by decide)

/-- Among the checks on the order of the parts, the last one decides alone. -/
theorem isOrdered_iff {d f b : Nat} (hd : FirstFrom ['['] a d text)
    (hb : FirstFrom ['\x7b'] f b text) :
    (CallSpan.mk a d f (b + 1)).isOrdered = true ↔ d < f :=
  CallSpan.isOrdered_iff hd.le (Nat.lt_succ_of_le hb.le)

/-- The `{` stands behind the whole word. -/
theorem function_lt_brace {f b : Nat} (hf : FirstFrom functionWord a f text)
    (hb : FirstFrom ['\x7b'] f b text) : f + 8 ≤ b := by
  obtain ⟨front, ⟨rest, rfl⟩, rfl⟩ := hf.occurs
  rw [List.append_assoc] at hb
  obtain ⟨before, -, rfl⟩ := firstFrom_brace_iff.mp hb
  exact Nat.le_add_right _ _

theorem cutsIn_of_found {d f b : Nat} (ha : IsBoundary a text) (hd : FirstFrom ['['] a d text)
    (hf : FirstFrom functionWord a f text) (hb : FirstFrom ['\x7b'] f b text) (hlt : d < f) :
    (CallSpan.mk a d f (b + 1)).CutsIn text := by
  have hbody : IsBoundary (b + 1) text := hb.occurs.isBoundary_end
  refine ⟨hd.le, hlt, Nat.lt_succ_of_le (function_lt_brace hf hb), hbody.le_byteLength, ?_⟩
  simp only [List.forall_mem_cons, List.not_mem_nil, false_implies, implies_true, and_true]
  exact ⟨ha, hd.occurs.isBoundary, hf.occurs.isBoundary, hbody⟩

/-! ## Arguments -/

/-- The arguments of a call are answered as they are judged. -/
theorem judgedFrom_detectArguments (front rest : List Char) :
    JudgedFrom (front ++ rest) (byteLength front) (detectArguments (byteLength front) rest) := by
  unfold detectArguments
  split
  · next hquoted => exact .named (quotedFrom_iff.mpr hquoted)
  · next hquoted =>
    have hnot : ¬ QuotedFrom (byteLength front) (front ++ rest) :=
      fun h => hquoted (quotedFrom_iff.mp h)
    split
    · next hbracket => exact .dependenciesMissing hnot (noneFrom_of_splitFirst? front hbracket)
    · next toBracket behindBracket hbracket =>
      have hd := firstFrom_of_splitFirst? front hbracket
      split
      · next hfunction => exact .functionMissing hnot hd (noneFrom_of_splitFirst? front hfunction)
      · next toFunction afterFunction hfunction =>
        have hf := firstFrom_of_splitFirst? front hfunction
        -- The text as it is seen from the word `function`.
        have htext : front ++ rest = (front ++ toFunction) ++ (functionWord ++ afterFunction) := by
          rw [(Text.splitFirst?_eq_some_iff.mp hfunction).1, List.append_assoc, List.append_assoc]
        have hlen : byteLength (front ++ toFunction) = byteLength front + byteLength toFunction :=
          Text.byteLength_append _ _
        split
        · next hbrace =>
          refine .bodyMissing hnot hd hf ?_
          rw [htext, ← hlen, noneFrom_brace_iff, ← List.singleton_infix_iff]
          exact Text.splitFirst?_eq_none_iff.mp hbrace
        · next toBrace body hbrace =>
          have hb : FirstFrom ['\x7b'] (byteLength front + byteLength toFunction)
              (byteLength front + byteLength toFunction + byteLength functionWord +
                byteLength toBrace) (front ++ rest) := by
            rw [htext, ← hlen]
            exact firstFrom_brace_iff.mpr ⟨toBrace, (Text.splitFirst?_eq_some_iff.mp hbrace).2, rfl⟩
          dsimp only
          split
          · next hordered => exact .anonymous hnot hd hf hb ((isOrdered_iff hd hb).mp hordered)
          · next hordered =>
            refine .outOfOrder hnot hd hf hb ?_
            have hge := fun h => hordered ((isOrdered_iff hd hb).mpr h)
            exact lt_of_le_of_ne (Nat.le_of_not_lt hge) (bracket_ne_function hd hf).symm

/-- No call is judged in two ways. -/
theorem JudgedFrom.unique {x y : Detection} (hx : JudgedFrom text a x) (hy : JudgedFrom text a y) :
    x = y := by
  -- Two ways differ in a mark that is found in one and missing in the other, or in the order
  -- of two marks; but what is found first stands at one offset only.
  cases hx <;> cases hy <;> grind [FirstFrom.unique, FirstFrom.not_noneFrom]

/-! ## Whole texts -/

/-- A text is answered as it is judged. -/
theorem judged_detect (token text : List Char) : Judged token text (detect token text) := by
  by_cases hfound : detect token text = .notAModule .tokenMissing
  · rw [hfound]
    refine .tokenMissing ((detect_eq_tokenMissing_iff.mp hfound).imp_right fun hnot => ?_)
    intro k hk
    exact absurd (Text.exists_occursAt_iff.mp ⟨k, hk⟩) hnot
  · obtain ⟨hne, before, arguments, hfirst, rfl⟩ := exists_firstBehind_of_detect hfound
    rw [detect_of_firstBehind hne hfirst rfl]
    refine .arguments hne (Text.firstFrom_zero_iff.mpr ⟨before, hfirst, rfl⟩) ?_
    rw [← Text.byteLength_append]
    exact judgedFrom_detectArguments _ _

/-- No text is judged in two ways. -/
theorem Judged.unique {x y : Detection} (hx : Judged token text x) (hy : Judged token text y) :
    x = y := by
  cases hx with
  | tokenMissing hx =>
    cases hy with
    | tokenMissing => rfl
    | arguments hne hfirst _ => exact absurd hx (not_or.mpr ⟨hne, hfirst.not_noneFrom⟩)
  | arguments hne hfirst hx =>
    cases hy with
    | tokenMissing hy => exact absurd hy (not_or.mpr ⟨hne, hfirst.not_noneFrom⟩)
    | arguments _ hother hy =>
      rw [hother.unique hfirst] at hy
      exact hx.unique hy

/-- The answer for a text is what it is judged to be. -/
theorem detect_eq_iff {found : Detection} :
    detect token text = found ↔ Judged token text found := by
  constructor
  · rintro rfl
    exact judged_detect token text
  · exact (judged_detect token text).unique

/-- The parts of an anonymous call are where the text can be cut. -/
theorem cutsIn_of_detect {span : CallSpan} (h : detect token text = .anonymous span) :
    span.CutsIn text := by
  cases detect_eq_iff.mp h with
  | arguments _ hfirst hjudged =>
    cases hjudged with
    | anonymous _ hd hf hb hlt => exact cutsIn_of_found hfirst.occurs.isBoundary_end hd hf hb hlt

/-- **The search for a call is exact and cuts no character.**
* The answer for a text is what it is judged to be, by where the marks of a call first stand.
* The searches start at offsets where the text can be cut.
* Of the checks on the order of what was found, only the one of the `[` and the word
  `function` decides.
* The parts of an anonymous call stand in order, at offsets where the text can be cut, and the
  pieces that are cut out there are as long as their offsets say and make up the text. -/
theorem detect_exact (token text : List Char) :
    (∀ found, detect token text = found ↔ Judged token text found) ∧
    (∀ t, FirstFrom token 0 t text → IsBoundary (t + byteLength token) text) ∧
    (∀ a f, FirstFrom functionWord a f text → IsBoundary f text) ∧
    (∀ a d f b, FirstFrom ['['] a d text → FirstFrom functionWord a f text →
      FirstFrom ['\x7b'] f b text → ((CallSpan.mk a d f (b + 1)).isOrdered = true ↔ d < f)) ∧
    ∀ span, detect token text = .anonymous span →
      span.CutsIn text ∧
      byteLength (Text.takeBytes span.afterToken text) = span.afterToken ∧
      byteLength (Text.sliceBytes span.afterToken span.bodyStart text) =
        span.bodyStart - span.afterToken ∧
      Text.takeBytes span.afterToken text ++
        Text.sliceBytes span.afterToken span.bodyStart text ++
        Text.dropBytes span.bodyStart text = text := by
  refine ⟨fun found => detect_eq_iff, ?_, ?_, ?_, ?_⟩
  · intro t hfirst
    exact hfirst.occurs.isBoundary_end
  · intro a f hfirst
    exact hfirst.occurs.isBoundary
  · intro a d f b hd _ hb
    exact isOrdered_iff hd hb
  · intro span hspan
    have hcuts : span.CutsIn text := cutsIn_of_detect hspan
    have hafter : IsBoundary span.afterToken text := hcuts.boundaries _ (by simp)
    have hbody : IsBoundary span.bodyStart text := hcuts.boundaries _ (by simp)
    have hle : span.afterToken ≤ span.bodyStart := by
      have := hcuts.dependencies
      have := hcuts.function
      have := hcuts.body
      omega
    exact ⟨hcuts, hafter.byteLength_takeBytes, hafter.byteLength_sliceBytes hbody hle⟩

/-- Characters of more than one byte, in the token and behind it; the word stands right behind
the token in the second text. -/
example :
    detect "déf(".toList "é déf(\u2003['ü'], function ü () \x7b\x7d".toList =
        .anonymous ⟨8, 11, 19, 35⟩ ∧
      detect "déf(".toList "déf(function () \x7b [] \x7d".toList = .notAModule .outOfOrder := by
  decide +kernel

end Definition

end ModuleBundler
