/-
# ModuleBundler.Proofs.Bundle.Run -- what a run of files adds up to

Files are added to a bundle one after the other, and a file that cannot be named is
passed over. This module says what such a run leaves behind, without the state that
it goes through: `Adds` is the text that one file adds, and `Assembled` puts these
texts together in order.

Main statement: `pushAll_law`. The answer for a file is the same wherever it stands
in a run, the text of a bundle is assembled from what its files add, and the counters
count files and names. The names that were given before decide about collisions only.
-/

import ModuleBundler.Bundle
import ModuleBundler.Proofs.Definition.Layout

namespace ModuleBundler

/-! ## Naming -/

namespace Options

theorem moduleRoot_of_ne {o : Options} (h : o.root ≠ "") : o.moduleRoot = some o.root := by
  rw [moduleRoot, if_neg h]

theorem moduleRoot_of_eq {o : Options} (h : o.root = "") : o.moduleRoot = none := by
  rw [moduleRoot, if_pos h]

end Options

namespace Identifier

/-- A file has no name exactly when a root is set that does not occur in its path. -/
theorem ofPath_eq_error_iff {o : Options} {path : String} {e : RootMissing} :
    ofPath o.moduleRoot path = .error e ↔
      (o.root ≠ "" ∧ ¬ o.root.toList <:+: path.toList) ∧ e = ⟨o.root, path⟩ := by
  by_cases hroot : o.root = ""
  · have hpart : ∃ part, partBehind? none path.toList = some part := by
      unfold partBehind?
      split
      · next h => cases h
      · split
        · exact ⟨_, rfl⟩
        · exact ⟨_, rfl⟩
    obtain ⟨part, hpart⟩ := hpart
    simp [ofPath, Options.moduleRoot_of_eq hroot, hpart, hroot]
  · have hne : o.root.toList ≠ [] := fun h => hroot (String.toList_eq_nil_iff.mp h)
    obtain ⟨c, rest, hcons⟩ := List.exists_cons_of_ne_nil hne
    rw [Options.moduleRoot_of_ne hroot, hcons, ← Text.splitFirst?_eq_none_iff]
    unfold ofPath partBehind?
    simp only [Option.map_some, hcons, Option.getD_some]
    cases hs : Text.splitFirst? (c :: rest) path.toList with
    | none => simp [hroot, eq_comm]
    | some pieces => simp

end Identifier

namespace Bundle

/-! ## What one file adds -/

/-- A file that is a module, but whose path does not show the module root. -/
def Unnamable (o : Options) (file : SourceFile) : Prop :=
  o.concatenateOnly = false ∧ (∃ span, detection o file = .anonymous span) ∧
    o.root ≠ "" ∧ ¬ o.root.toList <:+: file.path.display.toList

/-- The text that a file adds to a bundle, by what became of it. The cuts of a named
file are byte offsets into its content. -/
inductive Adds (o : Options) (file : SourceFile) : Outcome → String → Prop
  | unread : o.concatenateOnly = true → Adds o file .concatenated (file.content ++ "\n")
  | rejected {reason : Rejection} :
      o.concatenateOnly = false → detection o file = .notAModule reason →
      Adds o file .concatenated (file.content ++ "\n")
  | alreadyNamed {afterToken : Nat} :
      o.concatenateOnly = false → detection o file = .named afterToken →
      Adds o file .alreadyNamed (file.content ++ "\n")
  | named {id : Identifier} {span : CallSpan} {head middle tail : String} :
      o.concatenateOnly = false → detection o file = .anonymous span →
      Identifier.ofPath o.moduleRoot file.path.display = .ok id →
      file.content = head ++ middle ++ tail →
      head.utf8ByteSize = span.afterToken → (head ++ middle).utf8ByteSize = span.bodyStart →
      Adds o file (.named id)
        (head ++ "'" ++ id.text ++ "', " ++ middle ++ "\n" ++
          (o.varName.elim "" fun name => "    var " ++ name ++ " = '" ++ id.text ++ "';") ++
          tail ++ "\n\n")

theorem statement_eq_elim (varName : Option String) (id : Identifier) :
    statement varName id =
      varName.elim "" fun name => "    var " ++ name ++ " = '" ++ id.text ++ "';" := by
  cases varName <;> rfl

/-- The cuts of an anonymous call fall between characters. -/
theorem exists_cuts {o : Options} {file : SourceFile} {span : CallSpan}
    (h : detection o file = .anonymous span) :
    ∃ head middle tail : List Char, file.content.toList = head ++ middle ++ tail ∧
      Text.byteLength head = span.afterToken ∧
      Text.byteLength (head ++ middle) = span.bodyStart := by
  obtain ⟨-, before, l, body, -, -, htext, rfl⟩ := Definition.detect_eq_anonymous_iff.mp h
  refine ⟨before ++ o.definitionToken.toList, l.opening, body, ?_, rfl, ?_⟩
  · rw [htext]
    simp
  · simp [Definition.Layout.span, Nat.add_assoc]

/-- A named file is its content with the name and the statement put in at the cuts. -/
theorem insertName_eq {o : Options} {id : Identifier} {span : CallSpan} {content : String}
    {head middle tail : List Char} (hcontent : content.toList = head ++ middle ++ tail)
    (hhead : Text.byteLength head = span.afterToken)
    (hmiddle : Text.byteLength (head ++ middle) = span.bodyStart) :
    insertName o id span content =
      String.ofList head ++ "'" ++ id.text ++ "', " ++ String.ofList middle ++ "\n" ++
        statement o.varName id ++ String.ofList tail ++ "\n\n" := by
  have htake : Text.takeBytes span.afterToken content.toList = head := by
    rw [hcontent, ← hhead, List.append_assoc, Text.takeBytes_append]
  have hslice : Text.sliceBytes span.afterToken span.bodyStart content.toList = middle := by
    have hlength : span.bodyStart - span.afterToken = Text.byteLength middle := by
      rw [← hhead, ← hmiddle, Text.byteLength_append]
      omega
    rw [Text.sliceBytes, hlength, hcontent, ← hhead, List.append_assoc, Text.dropBytes_append,
      Text.takeBytes_append]
  have hdrop : Text.dropBytes span.bodyStart content.toList = tail := by
    rw [hcontent, ← hmiddle, Text.dropBytes_append]
  simp only [insertName, htake, hslice, hdrop]

/-- What a file contributes is what it adds. -/
theorem adds_of_contribution {o : Options} {file : SourceFile} {c : Contribution}
    (h : contribution o file = .ok c) : Adds o file c.outcome c.piece := by
  unfold contribution at h
  split at h
  · next hunread =>
    obtain rfl := Except.ok.inj h
    exact .unread hunread
  · next hread =>
    have hread : o.concatenateOnly = false := by simpa using hread
    split at h
    · next reason hdetect =>
      obtain rfl := Except.ok.inj h
      exact .rejected hread hdetect
    · next k hdetect =>
      obtain rfl := Except.ok.inj h
      exact .alreadyNamed hread hdetect
    · next span hdetect =>
      cases hid : Identifier.ofPath o.moduleRoot file.path.display with
      | error e =>
        rw [hid] at h
        cases h
      | ok id =>
        rw [hid] at h
        obtain rfl := Except.ok.inj h
        obtain ⟨head, middle, tail, hcontent, hhead, hmiddle⟩ := exists_cuts hdetect
        show Adds o file (.named id) (insertName o id span file.content)
        rw [insertName_eq hcontent hhead hmiddle, statement_eq_elim]
        refine .named hread hdetect hid ?_ ?_ ?_
        · rw [← String.ofList_append, ← String.ofList_append, ← hcontent, String.ofList_toList]
        · rw [← Text.byteLength_eq_utf8ByteSize, hhead]
        · rw [← String.ofList_append, ← Text.byteLength_eq_utf8ByteSize, hmiddle]

/-- A file contributes nothing exactly when it is a module that cannot be named. -/
theorem contribution_eq_error_iff {o : Options} {file : SourceFile} {e : RootMissing} :
    contribution o file = .error e ↔ Unnamable o file ∧ e = ⟨o.root, file.path.display⟩ := by
  unfold contribution Unnamable
  by_cases hread : o.concatenateOnly = true
  · simp [hread]
  · rw [if_neg hread]
    have hread : o.concatenateOnly = false := by simpa using hread
    cases hdetect : detection o file with
    | notAModule reason => simp
    | named k => simp
    | anonymous span =>
      have hname : Identifier.ofPath o.moduleRoot file.path.display = .error e ↔ _ :=
        Identifier.ofPath_eq_error_iff
      cases hid : Identifier.ofPath o.moduleRoot file.path.display with
      | error missing => simpa [hread, hid, Except.map] using hname
      | ok id => simpa [hread, hid, Except.map] using hname

/-! ## One push -/

/-- The text that a file adds; nothing if it cannot be named. -/
def addition (o : Options) (file : SourceFile) : String :=
  match contribution o file with
  | .ok c => c.piece
  | .error _ => ""

/-- The answer for a file. -/
def verdict (o : Options) (file : SourceFile) : Except RootMissing Outcome :=
  (contribution o file).map Contribution.outcome

theorem adds_of_verdict {o : Options} {file : SourceFile} {outcome : Outcome}
    (h : verdict o file = .ok outcome) : Adds o file outcome (addition o file) := by
  unfold verdict at h
  unfold addition
  cases hc : contribution o file with
  | error e =>
    rw [hc] at h
    cases h
  | ok c =>
    rw [hc] at h
    obtain rfl := Except.ok.inj h
    exact adds_of_contribution hc

theorem addition_of_error {o : Options} {file : SourceFile} {e : RootMissing}
    (h : verdict o file = .error e) : addition o file = "" := by
  unfold verdict at h
  unfold addition
  cases hc : contribution o file with
  | error missing => rfl
  | ok c =>
    rw [hc] at h
    cases h

/-- Whether an answer says that a call was given a name. -/
def gaveName : Except RootMissing Outcome → Bool
  | .ok (.named _) => true
  | _ => false

/-- A name that was given before changes nothing but the collisions. -/
theorem record_content (b : Bundle) (id : Identifier) (display : String) :
    (b.record id display).content = b.content ∧ (b.record id display).files = b.files := by
  unfold record
  split
  · exact ⟨rfl, rfl⟩
  · exact ⟨rfl, rfl⟩

theorem push_fst (b : Bundle) (o : Options) (file : SourceFile) :
    (b.push o file).1 = verdict o file := by
  unfold push verdict
  cases contribution o file with
  | error e => rfl
  | ok c => rfl

theorem push_of_error {b : Bundle} {o : Options} {file : SourceFile} {e : RootMissing}
    (h : (b.push o file).1 = .error e) : (b.push o file).2 = { b with files := b.files + 1 } := by
  unfold push at *
  cases hc : contribution o file with
  | error missing => rfl
  | ok c =>
    rw [hc] at h
    cases h

/-- What one push does to the text and the counters. -/
theorem push_snd (b : Bundle) (o : Options) (file : SourceFile) :
    (b.push o file).2.content = b.content ++ addition o file ∧
      (b.push o file).2.files = b.files + 1 ∧
      (b.push o file).2.modules = b.modules + (if gaveName (verdict o file) then 1 else 0) := by
  unfold push addition verdict
  cases contribution o file with
  | error e => exact ⟨by simp, rfl, rfl⟩
  | ok c =>
    obtain ⟨outcome, piece⟩ := c
    cases outcome with
    | concatenated => exact ⟨rfl, rfl, rfl⟩
    | alreadyNamed => exact ⟨rfl, rfl, rfl⟩
    | named id =>
      obtain ⟨hcontent, hfiles⟩ := record_content
        { b with files := b.files + 1, content := b.content ++ piece } id file.path.display
      exact ⟨hcontent, hfiles, rfl⟩

/-! ## Runs -/

/-- The answers for files that are added one after the other, going on behind a
failure. -/
def answers (b : Bundle) (o : Options) : List SourceFile → List (Except RootMissing Outcome)
  | [] => []
  | file :: rest => (b.push o file).1 :: (b.push o file).2.answers o rest

/-- A text is put together in order from what those files add that were not refused. -/
inductive Assembled (o : Options) :
    List SourceFile → List (Except RootMissing Outcome) → String → Prop
  | nil : Assembled o [] [] ""
  | added {file : SourceFile} {rest : List SourceFile} {outcome : Outcome}
      {said : List (Except RootMissing Outcome)} {piece text : String} :
      Adds o file outcome piece → Assembled o rest said text →
      Assembled o (file :: rest) (.ok outcome :: said) (piece ++ text)
  | refused {file : SourceFile} {rest : List SourceFile} {e : RootMissing}
      {said : List (Except RootMissing Outcome)} {text : String} :
      Assembled o rest said text → Assembled o (file :: rest) (.error e :: said) text

/-- No file is answered by what was added before it. -/
theorem answers_eq_map (b : Bundle) (o : Options) (files : List SourceFile) :
    b.answers o files = files.map (verdict o) := by
  induction files generalizing b with
  | nil => rfl
  | cons file rest ih => rw [answers, List.map_cons, push_fst, ih]

theorem pushAll_cons (b : Bundle) (o : Options) (file : SourceFile) (rest : List SourceFile) :
    b.pushAll o (file :: rest) = (b.push o file).2.pushAll o rest := rfl

/-- The text that files add one after the other. -/
def additions (o : Options) (files : List SourceFile) : String :=
  String.join (files.map (addition o))

@[simp] theorem additions_nil (o : Options) : additions o [] = "" := rfl

@[simp] theorem additions_cons (o : Options) (file : SourceFile) (rest : List SourceFile) :
    additions o (file :: rest) = addition o file ++ additions o rest := by
  simp [additions]

@[simp] theorem additions_append (o : Options) (front back : List SourceFile) :
    additions o (front ++ back) = additions o front ++ additions o back := by
  simp [additions]

/-- What a run does to the text and the counters. -/
theorem pushAll_snd (b : Bundle) (o : Options) (files : List SourceFile) :
    (b.pushAll o files).content = b.content ++ additions o files ∧
      (b.pushAll o files).files = b.files + files.length ∧
      (b.pushAll o files).modules = b.modules + (files.map (verdict o)).countP gaveName := by
  induction files generalizing b with
  | nil => exact ⟨by simp [pushAll], rfl, rfl⟩
  | cons file rest ih =>
    obtain ⟨hcontent, hfiles, hmodules⟩ := push_snd b o file
    obtain ⟨ihcontent, ihfiles, ihmodules⟩ := ih (b.push o file).2
    rw [pushAll_cons, ihcontent, ihfiles, ihmodules, hcontent, hfiles, hmodules]
    refine ⟨by simp [String.append_assoc], ?_, ?_⟩
    · rw [List.length_cons]
      omega
    · rw [List.map_cons, List.countP_cons]
      omega

/-- What files add is assembled by their answers. -/
theorem assembled_additions (o : Options) (files : List SourceFile) :
    Assembled o files (files.map (verdict o)) (additions o files) := by
  induction files with
  | nil => exact .nil
  | cons file rest ih =>
    rw [List.map_cons, additions_cons]
    cases hverdict : verdict o file with
    | error e =>
      rw [addition_of_error hverdict, String.empty_append]
      exact .refused ih
    | ok outcome => exact .added (adds_of_verdict hverdict) ih

/-- **What a run adds up to.** From an empty bundle:
* the answer for a file depends on the options and that file, never on the run before it;
* a file is refused exactly when it is a module whose path does not show the module root;
* the text is assembled in order from what the files that were not refused add;
* the counters are the number of files and the number of names given;
* a file that is refused leaves everything as it was but the number of files;
* a run of more files adds their text and their counters. -/
theorem pushAll_law (o : Options) (files : List SourceFile) :
    (∀ b : Bundle, b.answers o files =
      files.map fun file => (({} : Bundle).push o file).1) ∧
    (∀ (b : Bundle) (file : SourceFile) (e : RootMissing), (b.push o file).1 = .error e ↔
      Unnamable o file ∧ e = ⟨o.root, file.path.display⟩) ∧
    Assembled o files (({} : Bundle).answers o files) (({} : Bundle).pushAll o files).content ∧
    (({} : Bundle).pushAll o files).files = files.length ∧
    (({} : Bundle).pushAll o files).modules = (({} : Bundle).answers o files).countP gaveName ∧
    (∀ (b : Bundle) (file : SourceFile) (e : RootMissing), (b.push o file).1 = .error e →
      (b.push o file).2 = { b with files := b.files + 1 }) ∧
    ∀ more : List SourceFile,
      (({} : Bundle).pushAll o (files ++ more)).content =
        (({} : Bundle).pushAll o files).content ++ (({} : Bundle).pushAll o more).content ∧
      (({} : Bundle).pushAll o (files ++ more)).files =
        (({} : Bundle).pushAll o files).files + (({} : Bundle).pushAll o more).files ∧
      (({} : Bundle).pushAll o (files ++ more)).modules =
        (({} : Bundle).pushAll o files).modules + (({} : Bundle).pushAll o more).modules := by
  obtain ⟨hcontent, hfiles, hmodules⟩ := pushAll_snd {} o files
  refine ⟨?_, ?_, ?_, ?_, ?_, ?_, ?_⟩
  · intro b
    rw [answers_eq_map]
    exact List.map_congr_left fun file _ => (push_fst {} o file).symm
  · intro b file e
    rw [push_fst, ← contribution_eq_error_iff, verdict]
    cases contribution o file with
    | error missing => simp [Except.map]
    | ok c => simp [Except.map]
  · rw [answers_eq_map, hcontent]
    simpa using assembled_additions o files
  · rw [hfiles]
    simp
  · rw [answers_eq_map, hmodules]
    simp
  · intro b file e h
    exact push_of_error h
  · intro more
    obtain ⟨mcontent, mfiles, mmodules⟩ := pushAll_snd {} o more
    obtain ⟨acontent, afiles, amodules⟩ := pushAll_snd {} o (files ++ more)
    rw [acontent, afiles, amodules, mcontent, mfiles, mmodules, hcontent, hfiles, hmodules]
    refine ⟨by simp, by simp, ?_⟩
    rw [List.map_append, List.countP_append]
    simp

/-- The second file is refused, and the run goes on as if it had not been there. -/
example :
    (({} : Bundle).pushAll { root := "amd/" }
      [⟨⟨"amd/A.js", ⟨"amd/A.js"⟩⟩, "define([], function () \x7b\x7d);"⟩,
        ⟨⟨"lib/B.js", ⟨"lib/B.js"⟩⟩, "define([], function () \x7b\x7d);"⟩,
        ⟨⟨"lib/c.js", ⟨"lib/c.js"⟩⟩, "var c;"⟩]) =
      { content := "define('A', [], function () \x7b\n\x7d);\n\nvar c;\n", files := 3, modules := 1,
        named := [(⟨"A"⟩, "amd/A.js")] } := by
  decide +kernel

end Bundle

end ModuleBundler
