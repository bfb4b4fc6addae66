/-
# ModuleBundler.Proofs.Bundle.Reversal -- a named file can be read back

Naming a call puts two parts into the text of a file: the name behind the token, and
a line end with the variable's statement behind the `{`. Neither part moves what the
search finds, because it looks for first occurrences from the front and both parts
stand behind what decides them. Main statement: `rewrite_reversible`, the named text
is found to be named at the same place, and taking the parts out again gives back the
file. So no two files with one path are written in the same way.
-/

import ModuleBundler.Proofs.Bundle.Run
import ModuleBundler.Proofs.Text.Position

namespace ModuleBundler.Bundle

open Text (FirstBehind byteLength)
open Definition (Layout detect)

/-! ## Parts that are put in -/

/-- `whole` is `text` with `part` put in at a byte offset; seen from `whole`, `text`
is what is left when `part` is taken out there. -/
def PutIn (offset : Nat) (part text whole : String) : Prop :=
  ∃ front back : String, text = front ++ back ∧ whole = front ++ part ++ back ∧
    front.utf8ByteSize = offset

/-- A part can be taken out in one way only. -/
theorem PutIn.unique {offset : Nat} {part text text' whole : String}
    (h : PutIn offset part text whole) (h' : PutIn offset part text' whole) : text = text' := by
  obtain ⟨front, back, rfl, hwhole, hsize⟩ := h
  obtain ⟨front', back', rfl, hwhole', hsize'⟩ := h'
  have heq : front ++ (part ++ back) = front' ++ (part ++ back') := by
    rw [← String.append_assoc, ← String.append_assoc, ← hwhole, ← hwhole']
  have hlists : front.toList ++ (part ++ back).toList =
      front'.toList ++ (part ++ back').toList := by
    rw [← String.toList_append, ← String.toList_append, heq]
  have hfront : front = front' := by
    refine String.toList_inj.mp (Text.eq_of_append_eq_of_byteLength hlists ?_)
    rw [Text.byteLength_toList, Text.byteLength_toList, hsize, hsize']
  subst hfront
  have hback : part ++ back = part ++ back' := (String.append_right_inj front).mp heq
  rw [(String.append_right_inj part).mp hback]

/-! ## The text of a named file -/

/-- What `named` says about a file and the text it adds: the first token of the
content is followed by a valid layout, and the name and the statement stand behind
the two. -/
theorem exists_layout_of_verdict {o : Options} {file : SourceFile} {id : Identifier}
    (h : verdict o file = .ok (.named id)) :
    ∃ (before : List Char) (l : Layout) (body : List Char),
      o.definitionToken.toList ≠ [] ∧
      FirstBehind o.definitionToken.toList before file.content.toList ∧ l.Valid ∧
      file.content.toList = before ++ o.definitionToken.toList ++ (l.opening ++ body) ∧
      Identifier.ofPath o.moduleRoot file.path.display = .ok id ∧
      (addition o file).toList = before ++ o.definitionToken.toList ++
        (("'" ++ id.text ++ "', ").toList ++ (l.opening ++
          (("\n" ++ statement o.varName id).toList ++ (body ++ ['\n', '\n'])))) := by
  have hadds := adds_of_verdict h
  generalize addition o file = piece at hadds ⊢
  cases hadds with
  | @named _ span head middle tail _ hdetect hid hcontent hhead hmiddle =>
    obtain ⟨hne, before, l, body, hfirst, hvalid, htext, rfl⟩ :=
      Definition.detect_eq_anonymous_iff.mp hdetect
    refine ⟨before, l, body, hne, hfirst, hvalid, htext, hid, ?_⟩
    -- The cuts of the text fall where the layout of the call has them.
    have hpieces : head.toList ++ (middle.toList ++ tail.toList) =
        (before ++ o.definitionToken.toList) ++ (l.opening ++ body) := by
      rw [← htext, hcontent, String.toList_append, String.toList_append, List.append_assoc]
    have hhead' : head.toList = before ++ o.definitionToken.toList := by
      refine Text.eq_of_append_eq_of_byteLength hpieces ?_
      rw [Text.byteLength_toList, hhead]
      rfl
    rw [hhead'] at hpieces
    have hmiddle' : middle.toList = l.opening := by
      refine Text.eq_of_append_eq_of_byteLength (List.append_cancel_left hpieces) ?_
      have hsize : head.utf8ByteSize = byteLength (before ++ o.definitionToken.toList) := hhead
      rw [String.utf8ByteSize_append, hsize] at hmiddle
      rw [Text.byteLength_toList]
      exact Nat.add_left_cancel hmiddle
    have htail' : tail.toList = body := by
      rw [hmiddle'] at hpieces
      exact List.append_cancel_left (List.append_cancel_left hpieces)
    simp [hhead', hmiddle', htail', statement_eq_elim]

/-! ## Reading it back -/

/-- How the text that a named file adds is read back: the call is found to be named,
and `unnamed` is left when the name is taken out. -/
structure ReadsBack (o : Options) (file : SourceFile) (id : Identifier) (unnamed : String)
    (span : CallSpan) : Prop where
  identifier : Identifier.ofPath o.moduleRoot file.path.display = .ok id
  found : detect o.definitionToken.toList file.content.toList = .anonymous span
  named : detect o.definitionToken.toList (addition o file).toList = .named span.afterToken
  name : PutIn span.afterToken ("'" ++ id.text ++ "', ") unnamed (addition o file)
  anonymous : detect o.definitionToken.toList unnamed.toList = .anonymous span
  statement : PutIn span.bodyStart
    ("\n" ++ o.varName.elim "" fun name => "    var " ++ name ++ " = '" ++ id.text ++ "';")
    (file.content ++ "\n\n") unnamed

theorem reads_back {o : Options} {file : SourceFile} {id : Identifier}
    (h : verdict o file = .ok (.named id)) :
    ∃ unnamed span, ReadsBack o file id unnamed span := by
  obtain ⟨before, l, body, hne, hfirst, hvalid, htext, hid, hpiece⟩ := exists_layout_of_verdict h
  rw [statement_eq_elim] at hpiece
  generalize hset : ("\n" ++ o.varName.elim "" fun name =>
    "    var " ++ name ++ " = '" ++ id.text ++ "';") = set at hpiece
  let head := before ++ o.definitionToken.toList
  let rest := l.opening ++ (set.toList ++ (body ++ ['\n', '\n']))
  have hunnamed : FirstBehind o.definitionToken.toList before (head ++ rest) :=
    hfirst.of_isPrefix (List.prefix_append _ _)
  have hadded : FirstBehind o.definitionToken.toList before (addition o file).toList :=
    hfirst.of_isPrefix (by rw [hpiece]; exact List.prefix_append _ _)
  refine ⟨String.ofList (head ++ rest), l.span (byteLength head), hid, ?_, ?_, ?_, ?_, ?_⟩
  · exact Definition.detect_eq_anonymous_iff.mpr ⟨hne, before, l, body, hfirst, hvalid, htext, rfl⟩
  · refine Definition.detect_eq_named_iff.mpr ⟨hne, before, _, hadded, hpiece, ?_, rfl⟩
    have hquote : ("'" ++ id.text ++ "', ").toList = '\'' :: (id.text ++ "', ").toList := by
      simp
    rw [hquote, List.cons_append]
    exact Definition.startsQuoted_quote _
  · refine ⟨String.ofList head, String.ofList rest, by simp, ?_, ?_⟩
    · rw [← String.toList_inj, hpiece]
      simp [head, rest]
    · rw [← Text.byteLength_eq_utf8ByteSize]
      rfl
  · rw [String.toList_ofList]
    exact Definition.detect_eq_anonymous_iff.mpr
      ⟨hne, before, l, _, hunnamed, hvalid, rfl, rfl⟩
  · refine ⟨String.ofList (head ++ l.opening), String.ofList (body ++ ['\n', '\n']), ?_, ?_, ?_⟩
    · rw [← String.toList_inj, String.toList_append, htext]
      simp [head]
    · rw [hset, ← String.toList_inj]
      simp [rest]
    · rw [← Text.byteLength_eq_utf8ByteSize, Text.byteLength_append]
      rfl

/-- The text that a file adds decides the file, among those with its path. -/
theorem ReadsBack.content_unique {o : Options} {file other : SourceFile} {id id' : Identifier}
    {unnamed unnamed' : String} {span span' : CallSpan}
    (h' : ReadsBack o other id' unnamed' span') (h : ReadsBack o file id unnamed span)
    (hdisplay : other.path.display = file.path.display)
    (hpiece : addition o other = addition o file) : other.content = file.content := by
  have hid : id' = id := by
    have := h'.identifier
    rw [hdisplay, h.identifier] at this
    exact (Except.ok.inj this).symm
  have hafter : span'.afterToken = span.afterToken := by
    have := h'.named
    rw [hpiece, h.named] at this
    exact (Detection.named.inj this).symm
  have hname := h'.name
  rw [hid, hafter, hpiece] at hname
  have hunnamed : unnamed' = unnamed := hname.unique h.name
  have hspan : span' = span := by
    have := h'.anonymous
    rw [hunnamed, h.anonymous] at this
    exact (Detection.anonymous.inj this).symm
  have hstatement := h'.statement
  rw [hid, hspan, hunnamed] at hstatement
  exact (String.append_left_inj "\n\n").mp (hstatement.unique h.statement)

/-- **A named file can be read back.** The text it adds is found to be named, at the
token where the file's own call was found. Without the name, the same anonymous call
is found in it, and without the statement and the two line ends at its end it is the
file. Two files with the same path that add the same text are therefore the same. -/
theorem rewrite_reversible (b : Bundle) (o : Options) (file : SourceFile) (id : Identifier)
    (h : (b.push o file).1 = .ok (.named id)) :
    ∃ (piece unnamed : String) (span : CallSpan),
      (b.push o file).2.content = b.content ++ piece ∧
      detect o.definitionToken.toList file.content.toList = .anonymous span ∧
      detect o.definitionToken.toList piece.toList = .named span.afterToken ∧
      PutIn span.afterToken ("'" ++ id.text ++ "', ") unnamed piece ∧
      detect o.definitionToken.toList unnamed.toList = .anonymous span ∧
      PutIn span.bodyStart
        ("\n" ++ o.varName.elim "" fun name => "    var " ++ name ++ " = '" ++ id.text ++ "';")
        (file.content ++ "\n\n") unnamed ∧
      ∀ (b' : Bundle) (other : SourceFile) (id' : Identifier),
        other.path.display = file.path.display → (b'.push o other).1 = .ok (.named id') →
        (b'.push o other).2.content = b'.content ++ piece → other.content = file.content := by
  rw [push_fst] at h
  obtain ⟨unnamed, span, hread⟩ := reads_back h
  refine ⟨addition o file, unnamed, span, (push_snd b o file).1, hread.found, hread.named,
    hread.name, hread.anonymous, hread.statement, ?_⟩
  intro b' other id' hdisplay h' hcontent
  rw [push_fst] at h'
  have hpiece : addition o other = addition o file :=
    (String.append_right_inj b'.content).mp ((push_snd b' o other).1.symm.trans hcontent)
  obtain ⟨unnamed', span', hread'⟩ := reads_back h'
  exact hread'.content_unique hread hdisplay hpiece

/-- A token that overlaps itself and is longer in bytes than in characters. -/
theorem rewrite_reversible_overlapping :
    let o : Options := { definitionToken := "«»«", varName := some "F" }
    let file : SourceFile :=
      ⟨⟨"lib/a.js", ⟨"lib/a.js"⟩⟩, "«»«»«[], function () \x7b\x7d"⟩
    (({} : Bundle).push o file).1 = .ok (.named ⟨"a"⟩) ∧
      ∃ (piece unnamed : String) (span : CallSpan),
        (({} : Bundle).push o file).2.content = "" ++ piece ∧
        detect "«»«".toList file.content.toList = .anonymous span ∧
        detect "«»«".toList piece.toList = .named span.afterToken ∧
        PutIn span.afterToken "'a', " unnamed piece ∧
        detect "«»«".toList unnamed.toList = .anonymous span ∧
        PutIn span.bodyStart "\n    var F = 'a';" (file.content ++ "\n\n") unnamed := by
  intro o file
  have hnamed : (({} : Bundle).push o file).1 = .ok (.named ⟨"a"⟩) := by decide +kernel
  obtain ⟨piece, unnamed, span, hcontent, hfound, hread, hname, hanonymous, hstatement, -⟩ :=
    rewrite_reversible {} o file ⟨"a"⟩ hnamed
  exact ⟨hnamed, piece, unnamed, span, hcontent, hfound, hread, hname, hanonymous, hstatement⟩

end ModuleBundler.Bundle
