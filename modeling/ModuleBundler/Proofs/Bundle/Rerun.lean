/-
# ModuleBundler.Proofs.Bundle.Rerun -- bundling a bundle again

A bundle may become a source file itself. The search then sees the texts of all its
files as one, and decides by the first token of the whole. Where that token stands in
a file that was named, a quote follows it and nothing happens. Where it starts in a
file that was rejected, the search goes on into the files behind it and may put
together a call that no file has.

Main statement: `rerun_safe_iff`, a bundle can be bundled again unchanged exactly when
it does not expose such a call. `rerun_names_factory` is a bundle that does: its first
file defines a module without a dependency array.
-/

import ModuleBundler.Proofs.Bundle.Reversal

namespace ModuleBundler.Bundle

open Text (FirstBehind)
open Definition (detect)

/-! ## Files that are added unchanged -/

/-- A file is added unchanged exactly when no anonymous call is looked for or found. -/
theorem verdict_unchanged_iff {o : Options} {file : SourceFile} :
    (verdict o file = .ok .concatenated ∨ verdict o file = .ok .alreadyNamed) ↔
      ¬ (o.concatenateOnly = false ∧ ∃ span, detection o file = .anonymous span) := by
  unfold verdict contribution
  by_cases hread : o.concatenateOnly = true
  · simp [hread, Except.map]
  · rw [if_neg hread]
    have hread : o.concatenateOnly = false := by simpa using hread
    cases hdetect : detection o file with
    | notAModule reason => simp [Except.map]
    | named k => simp [Except.map]
    | anonymous span =>
      cases Identifier.ofPath o.moduleRoot file.path.display with
      | error e => simp [Except.map, hread]
      | ok id => simp [Except.map, hread]

theorem addition_of_unchanged {o : Options} {file : SourceFile}
    (h : verdict o file = .ok .concatenated ∨ verdict o file = .ok .alreadyNamed) :
    addition o file = file.content ++ "\n" ∧ gaveName (verdict o file) = false := by
  rcases h with h | h
  · have hadds := adds_of_verdict h
    generalize addition o file = piece at hadds ⊢
    rw [h]
    cases hadds <;> exact ⟨rfl, rfl⟩
  · have hadds := adds_of_verdict h
    generalize addition o file = piece at hadds ⊢
    rw [h]
    cases hadds
    exact ⟨rfl, rfl⟩

/-- What a file adds shows a named call if the file was named, now or before. -/
theorem detect_addition {o : Options} {file : SourceFile} {outcome : Outcome}
    (h : verdict o file = .ok outcome) (hne : outcome ≠ .concatenated) :
    ∃ k, detect o.definitionToken.toList (addition o file).toList = .named k := by
  cases outcome with
  | concatenated => exact absurd rfl hne
  | named id =>
    obtain ⟨unnamed, span, hread⟩ := reads_back h
    exact ⟨_, hread.named⟩
  | alreadyNamed =>
    have hadds := adds_of_verdict h
    generalize addition o file = piece at hadds ⊢
    cases hadds with
    | @alreadyNamed k _ hdetect =>
      refine ⟨k, ?_⟩
      rw [String.toList_append]
      exact Definition.detect_append_of_named hdetect _

/-! ## Where a place in a bundle lies -/

/-- Every place in the text of a bundle lies in what one of its files adds. -/
theorem exists_file_of_isPrefix {o : Options} {files : List SourceFile} {before : List Char}
    (hfront : before <+: (additions o files).toList)
    (hlt : before.length < (additions o files).toList.length) :
    ∃ (front : List SourceFile) (file : SourceFile) (back : List SourceFile) (start : List Char),
      files = front ++ file :: back ∧ before = (additions o front).toList ++ start ∧
      start.length < (addition o file).toList.length := by
  induction files generalizing before with
  | nil => simp at hlt
  | cons file rest ih =>
    by_cases hhere : before.length < (addition o file).toList.length
    · exact ⟨[], file, rest, before, rfl, by simp, hhere⟩
    · rw [additions_cons, String.toList_append] at hfront hlt
      have hpassed : (addition o file).toList <+: before :=
        List.prefix_of_prefix_length_le (List.prefix_append _ _) hfront (by omega)
      obtain ⟨further, rfl⟩ := hpassed
      rw [List.prefix_append_right_inj] at hfront
      rw [List.length_append, List.length_append] at hlt
      obtain ⟨front, found, back, start, hfiles, hfurther, hstart⟩ := ih hfront (by omega)
      refine ⟨file :: front, found, back, start, by rw [hfiles]; rfl, ?_, hstart⟩
      rw [hfurther, additions_cons, String.toList_append, List.append_assoc]

/-! ## Calls that a bundle exposes -/

/-- A bundle exposes a call that none of its files has: its first token starts in a
file that was rejected, and behind it, wherever the files end, stands what opens an
anonymous call. -/
def Exposes (o : Options) (files : List SourceFile) : Prop :=
  o.concatenateOnly = false ∧ o.definitionToken ≠ "" ∧
    ∃ (front : List SourceFile) (file : SourceFile) (back : List SourceFile)
      (start arguments : List Char),
      files = front ++ file :: back ∧ verdict o file = .ok .concatenated ∧
      start.length < (addition o file).toList.length ∧
      FirstBehind o.definitionToken.toList ((additions o front).toList ++ start)
        (additions o files).toList ∧
      (additions o files).toList =
        (additions o front).toList ++ start ++ o.definitionToken.toList ++ arguments ∧
      Definition.OpensCall arguments

theorem exposes_iff {o : Options} {files : List SourceFile} :
    Exposes o files ↔ o.concatenateOnly = false ∧
      ∃ span, detect o.definitionToken.toList (additions o files).toList = .anonymous span := by
  constructor
  · rintro ⟨hread, hne, front, file, back, start, arguments, -, -, -, hfirst, htext, hopens⟩
    refine ⟨hread, Definition.exists_detect_eq_anonymous_iff.mpr ?_⟩
    refine ⟨fun hnil => hne (String.toList_eq_nil_iff.mp hnil), _, arguments, hfirst, htext, hopens⟩
  · rintro ⟨hread, hfound⟩
    obtain ⟨hne, before, arguments, hfirst, htext, hopens⟩ :=
      Definition.exists_detect_eq_anonymous_iff.mp hfound
    have hlt : before.length < (additions o files).toList.length := by
      have := List.length_pos_iff.mpr hne
      rw [htext, List.length_append, List.length_append]
      omega
    obtain ⟨front, file, back, start, rfl, rfl, hstart⟩ :=
      exists_file_of_isPrefix ((List.prefix_append _ _).trans hfirst.1) hlt
    have hnonempty : o.definitionToken ≠ "" := by
      intro hempty
      exact hne (by rw [hempty]; rfl)
    refine ⟨hread, hnonempty, front, file, back, start, arguments, rfl, ?_, hstart, hfirst, htext,
      hopens⟩
    -- Were the file named or refused, the first token of the bundle could not start in it
    -- and be followed by an anonymous call.
    cases hverdict : verdict o file with
    | error e =>
      rw [addition_of_error hverdict] at hstart
      exact absurd hstart (Nat.not_lt_zero _)
    | ok outcome =>
      by_contra hother
      obtain ⟨k, hpart⟩ := detect_addition hverdict (fun h => hother (by rw [h]))
      have hsplit : (additions o (front ++ file :: back)).toList =
          (additions o front).toList ++ (addition o file).toList ++ (additions o back).toList := by
        rw [additions_append, additions_cons, String.toList_append, String.toList_append,
          List.append_assoc]
      obtain ⟨k', hnamed⟩ := Definition.detect_of_named_part hpart hsplit hfirst
      obtain ⟨span, hanonymous⟩ := hfound
      rw [hnamed] at hanonymous
      cases hanonymous

/-- Without a rejected file no call is exposed. -/
theorem not_exposes_of_forall {o : Options} {files : List SourceFile}
    (h : ∀ file ∈ files, verdict o file ≠ .ok .concatenated) : ¬ Exposes o files := by
  rintro ⟨-, -, front, file, back, start, arguments, rfl, hverdict, -⟩
  exact h file (by simp) hverdict

/-- **When bundling again is safe.** A bundle that is added as one file, under any
path, is added unchanged and gives no name, exactly when it does not expose a call. -/
theorem rerun_safe_iff (o : Options) (files : List SourceFile) (path : SourcePath) :
    let bundled := (({} : Bundle).pushAll o files).content
    let again := ({} : Bundle).push o ⟨path, bundled⟩
    ((again.1 = .ok .concatenated ∨ again.1 = .ok .alreadyNamed) ∧
      again.2.content = bundled ++ "\n" ∧ again.2.modules = 0) ↔ ¬ Exposes o files := by
  intro bundled again
  have hbundled : bundled = additions o files := by
    show (({} : Bundle).pushAll o files).content = _
    rw [(pushAll_snd {} o files).1]
    simp
  have hexposes : Exposes o files ↔
      o.concatenateOnly = false ∧ ∃ span, detection o ⟨path, bundled⟩ = .anonymous span := by
    rw [hbundled]
    exact exposes_iff
  obtain ⟨hcontent, -, hmodules⟩ := push_snd {} o ⟨path, bundled⟩
  rw [hexposes, ← verdict_unchanged_iff, ← push_fst {} o ⟨path, bundled⟩]
  refine ⟨fun h => h.1, fun h => ⟨h, ?_⟩⟩
  rw [push_fst] at h
  obtain ⟨hsame, hunnamed⟩ := addition_of_unchanged h
  refine ⟨?_, ?_⟩
  · rw [hcontent, hsame]
    simp
  · rw [hmodules, hunnamed]
    rfl

/-- A file that defines its module without a dependency array is rejected, the module
behind it is named, and their bundle exposes a call: added again, the first call gets
the name of the bundle. -/
theorem rerun_names_factory :
    let files : List SourceFile :=
      [⟨⟨"a.js", ⟨"a.js"⟩⟩, "define(factory);\n"⟩,
        ⟨⟨"b.js", ⟨"b.js"⟩⟩, "define([], function () \x7b\n\x7d);\n"⟩]
    ({} : Bundle).answers {} files = [.ok .concatenated, .ok (.named ⟨"b"⟩)] ∧
      (({} : Bundle).push {}
        ⟨⟨"out.js", ⟨"out.js"⟩⟩, (({} : Bundle).pushAll {} files).content⟩).1 =
          .ok (.named ⟨"out"⟩) := by
  decide +kernel

end ModuleBundler.Bundle
