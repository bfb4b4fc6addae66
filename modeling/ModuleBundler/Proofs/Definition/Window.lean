/-
# ModuleBundler.Proofs.Definition.Window -- what the answer of a search rests on

A text that holds a call may go on in any way behind the part that was looked at: up to the
`{` of an anonymous call, and up to the quote of a named one. In front of the call other text
may stand, as long as it brings no earlier token. Then the answer is the same, but for its
offsets (`Detection.shift`).

Main statement: `detect_window`. Texts are compared by their bytes (`AgreeOn`).
-/

import ModuleBundler.Proofs.Definition.Offsets
import ModuleBundler.Proofs.Text.Utf8Order

namespace ModuleBundler

open Text (byteLength FirstFrom FirstBehind)

/-! ## Offsets moved on -/

/-- A call that stands `n` bytes further behind. -/
def CallSpan.shift (n : Nat) (s : CallSpan) : CallSpan where
  afterToken := n + s.afterToken
  dependencies := n + s.dependencies
  function := n + s.function
  bodyStart := n + s.bodyStart

/-- An answer with every offset moved on by `n` bytes. -/
def Detection.shift (n : Nat) : Detection → Detection
  | .anonymous span => .anonymous (span.shift n)
  | .named afterToken => .named (n + afterToken)
  | .notAModule reason => .notAModule reason

theorem CallSpan.isOrdered_shift (n : Nat) (s : CallSpan) :
    (s.shift n).isOrdered = s.isOrdered := by
  simp [CallSpan.isOrdered, CallSpan.shift]

namespace Definition

variable {token text other front : List Char} {a : Nat}

/-! ## Texts that begin alike -/

/-- Two texts have the same first `n` bytes. -/
def AgreeOn (n : Nat) (text other : List Char) : Prop :=
  (String.ofList text).toUTF8.toList.take n = (String.ofList other).toUTF8.toList.take n

theorem length_flatMap_utf8EncodeChar (text : List Char) :
    (text.flatMap String.utf8EncodeChar).length = byteLength text := by
  induction text with
  | nil => rfl
  | cons c rest ih =>
    rw [List.flatMap_cons, List.length_append, ih, String.length_utf8EncodeChar]
    rfl

/-- A text that has the bytes of a front part has the front part. -/
theorem AgreeOn.isPrefix (h : AgreeOn (byteLength front) text other) (hfront : front <+: text) :
    front <+: other := by
  obtain ⟨behind, rfl⟩ := hfront
  refine Text.isPrefix_of_flatMap_utf8EncodeChar ?_
  unfold AgreeOn at h
  rw [Text.toUTF8_toList, Text.toUTF8_toList, String.toList_ofList, String.toList_ofList,
    List.flatMap_append, ← length_flatMap_utf8EncodeChar, List.take_left] at h
  rw [h]
  exact List.take_prefix _ _

/-! ## What stands behind -/

/-- An anonymous call is found whatever stands behind its `{`. -/
theorem detect_of_agreeOn_anonymous {span : CallSpan} (h : detect token text = .anonymous span)
    (hagree : AgreeOn span.bodyStart text other) : detect token other = .anonymous span := by
  obtain ⟨hne, before, l, body, hfirst, hvalid, htext, rfl⟩ := detect_eq_anonymous_iff.mp h
  have hwindow : before ++ token ++ l.opening <+: text := ⟨body, by simp [htext]⟩
  have hlength : (l.span (byteLength (before ++ token))).bodyStart =
      byteLength (before ++ token ++ l.opening) := by
    rw [Text.byteLength_append (before ++ token)]
    rfl
  rw [hlength] at hagree
  obtain ⟨body', hother⟩ := hagree.isPrefix hwindow
  -- The token and the layout of the call lie inside the part that both texts share.
  rw [detect_eq_anonymous_iff]
  refine ⟨hne, before, l, body', hfirst.of_isPrefix ?_, hvalid, ?_, rfl⟩
  · exact ⟨l.opening ++ body', by rw [← hother, List.append_assoc _ l.opening]⟩
  · rw [← hother, List.append_assoc _ l.opening]

/-- The first character behind the offset `a` that is no white space is a quote, and stands at
the offset `q`. -/
def QuoteAt (a q : Nat) (text : List Char) : Prop :=
  ∃ front blanks quote behind, text = front ++ (blanks ++ quote :: behind) ∧
    byteLength front = a ∧ (∀ c ∈ blanks, Text.isBlank c = true) ∧
    (quote = '\'' ∨ quote = '"') ∧ q = byteLength (front ++ blanks)

/-- A quote takes up one byte. -/
theorem byteLength_quote {quote : Char} (h : quote = '\'' ∨ quote = '"') :
    byteLength [quote] = 1 := by
  rcases h with rfl | rfl
  · rfl
  · rfl

theorem exists_quoteAt (h : detect token text = .named a) : ∃ q, QuoteAt a q text := by
  cases detect_eq_iff.mp h with
  | arguments _ _ hjudged =>
    cases hjudged with
    | named hquoted =>
      obtain ⟨front, blanks, quote, behind, htext, hfront, hblanks, hquote⟩ := hquoted
      exact ⟨_, front, blanks, quote, behind, htext, hfront, hblanks, hquote, rfl⟩

/-- A named call is found whatever stands behind the quote. -/
theorem detect_of_agreeOn_named {q : Nat} (h : detect token text = .named a)
    (hq : QuoteAt a q text) (hagree : AgreeOn (q + 1) text other) :
    detect token other = .named a := by
  obtain ⟨hne, before, arguments, hfirst, htext, -, rfl⟩ := detect_eq_named_iff.mp h
  obtain ⟨front, blanks, quote, behind, hcut, hfront, hblanks, hquote, rfl⟩ := hq
  obtain rfl : front = before ++ token :=
    Text.eq_of_append_eq_of_byteLength (hcut.symm.trans htext) hfront
  rw [← byteLength_quote hquote, ← Text.byteLength_append] at hagree
  obtain ⟨behind', hother⟩ := hagree.isPrefix ⟨behind, by simp [hcut]⟩
  have hother' : other = (before ++ token) ++ (blanks ++ quote :: behind') := by
    rw [← hother]
    simp
  rw [detect_eq_named_iff]
  refine ⟨hne, before, blanks ++ quote :: behind', ?_, hother', ?_, rfl⟩
  · exact hfirst.of_isPrefix ⟨_, hother'.symm⟩
  · have hquoted : QuotedFrom (byteLength (before ++ token))
        (before ++ token ++ (blanks ++ quote :: behind')) :=
      ⟨_, blanks, quote, behind', rfl, rfl, hblanks, hquote⟩
    exact quotedFrom_iff.mp hquoted

/-! ## What stands in front -/

/-- The same arguments are judged alike wherever they start. -/
theorem detectArguments_shift (n a : Nat) (arguments : List Char) :
    detectArguments (n + a) arguments = (detectArguments a arguments).shift n := by
  unfold detectArguments
  split
  · rfl
  · split
    · rfl
    · split
      · rfl
      · split
        · rfl
        · next toBracket _ _ _ toFunction _ _ _ toBrace _ _ =>
          -- The span of the moved call is the moved span, and its parts are in the same order.
          have hspan := CallSpan.isOrdered_shift n
            ⟨a, a + byteLength toBracket, a + byteLength toFunction,
              a + byteLength toFunction + byteLength functionWord + byteLength toBrace + 1⟩
          simp only [CallSpan.shift, ← Nat.add_assoc] at hspan
          dsimp only
          rw [hspan]
          split
          · simp only [Detection.shift, CallSpan.shift, Nat.add_assoc]
          · rfl

/-- Other text in front of a text leaves its first token the first one, or brings no token
where there was none. -/
def KeepsFirst (token pre text : List Char) : Prop :=
  (∃ k, FirstFrom token 0 k text ∧ FirstFrom token 0 (byteLength pre + k) (pre ++ text)) ∨
    (¬ token <:+: text ∧ ¬ token <:+: pre ++ text)

/-- What stands in front of a text moves the answer on, and does nothing else. -/
theorem detect_append_of_keepsFirst {pre : List Char} (h : KeepsFirst token pre text) :
    detect token (pre ++ text) = (detect token text).shift (byteLength pre) := by
  by_cases hne : token = []
  · rw [detect_eq_tokenMissing_iff.mpr (.inl hne), detect_eq_tokenMissing_iff.mpr (.inl hne)]
    rfl
  · rcases h with ⟨k, hfirst, hlater⟩ | ⟨hnot, hnot'⟩
    · obtain ⟨before, hbefore, rfl⟩ := Text.firstFrom_zero_iff.mp hfirst
      obtain ⟨long, hlong, hlength⟩ := Text.firstFrom_zero_iff.mp hlater
      obtain ⟨arguments, htext⟩ := hbefore.1
      -- In the longer text the token stands behind what is in front and what was before it.
      obtain rfl : pre ++ before = long := by
        obtain ⟨behind, hbehind⟩ := hlong.1
        have hsame : pre ++ before ++ (token ++ arguments) = long ++ (token ++ behind) := by
          rw [← List.append_assoc long, hbehind, ← htext]
          simp
        exact Text.eq_of_append_eq_of_byteLength hsame (by rw [Text.byteLength_append, hlength])
      have htext' : pre ++ text = pre ++ before ++ token ++ arguments := by
        rw [← htext]
        simp
      rw [detect_of_firstBehind hne hlong htext', detect_of_firstBehind hne hbefore htext.symm,
        ← detectArguments_shift, List.append_assoc pre, Text.byteLength_append pre]
    · rw [detect_eq_tokenMissing_iff.mpr (.inr hnot), detect_eq_tokenMissing_iff.mpr (.inr hnot')]
      rfl

/-- **The search looks only at its window.**
* Every text with the bytes of an anonymous call through its `{` is answered alike.
* A named call has a quote, and every text with the bytes through that quote is answered alike.
* Text in front that keeps the first token the first moves every offset of the answer on by its
  length, whatever the answer is; so does text in front that brings no token where there is none. -/
theorem detect_window (token text : List Char) :
    (∀ span, detect token text = .anonymous span →
      ∀ other, AgreeOn span.bodyStart text other → detect token other = .anonymous span) ∧
    (∀ a, detect token text = .named a → ∃ q, QuoteAt a q text ∧
      ∀ other, AgreeOn (q + 1) text other → detect token other = .named a) ∧
    ∀ pre, KeepsFirst token pre text →
      detect token (pre ++ text) = (detect token text).shift (byteLength pre) := by
  refine ⟨?_, ?_, ?_⟩
  · intro span hspan other hagree
    exact detect_of_agreeOn_anonymous hspan hagree
  · intro a hnamed
    obtain ⟨q, hq⟩ := exists_quoteAt hnamed
    exact ⟨q, hq, fun other hagree => detect_of_agreeOn_named hnamed hq hagree⟩
  · intro pre hkeeps
    exact detect_append_of_keepsFirst hkeeps

/-- A call behind a comment that holds the word `function`, and with another body. -/
theorem detect_window_behind_comment :
    let token := "define(".toList
    let call := "define(['ü'], function () \x7b".toList
    let comment := "// this function wraps a module\n".toList
    let span : CallSpan := ⟨39, 39, 47, 60⟩
    KeepsFirst token comment call ∧ AgreeOn 60 (comment ++ call) (comment ++ call ++ "\x7d".toList) ∧
      detect token (comment ++ call ++ "\x7d".toList) = .anonymous span := by
  intro token call comment span
  have hfirst : FirstFrom token 0 0 call := by
    have hsplit : Text.splitFirst? token call = some ([], call.drop 7) := by decide +kernel
    exact firstFrom_of_splitFirst? [] hsplit
  have hlater : FirstFrom token 0 (byteLength comment + 0) (comment ++ call) := by
    have hsplit : Text.splitFirst? token (comment ++ call) = some (comment, call.drop 7) := by
      decide +kernel
    have hbehind := firstFrom_of_splitFirst? [] hsplit
    rwa [Nat.add_comm] at hbehind
  have hkeeps : KeepsFirst token comment call := .inl ⟨0, hfirst, hlater⟩
  have hagree : AgreeOn 60 (comment ++ call) (comment ++ call ++ "\x7d".toList) := by
    unfold AgreeOn
    decide +kernel
  have hmoved := (detect_window token call).2.2 comment hkeeps
  have hcall : detect token call = .anonymous ⟨7, 7, 15, 28⟩ := by decide +kernel
  rw [hcall] at hmoved
  exact ⟨hkeeps, hagree, (detect_window token (comment ++ call)).1 span hmoved _ hagree⟩

end Definition

end ModuleBundler
