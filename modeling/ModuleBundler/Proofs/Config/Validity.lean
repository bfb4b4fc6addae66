/-
# ModuleBundler.Proofs.Config.Validity -- what a check of a configuration is worth

The check looks at each layer of options by itself, and files are bundled with two layers
laid over each other and with what holds where neither sets an option. `Config.check_eq_ok_iff`
says, without the check, which configurations pass it. The options that are resolved from two
layers that pass are usable as well (`Overrides.Usable.resolve`): an option of the result is the
one of a layer, or it is the one that holds by default.

Main statement: `check_covers_options`. The configurations that are loaded are those that passed
the check with the environment in place, so that no target of theirs has an empty definition
token or a variable that is no name, and none of their compress sections is without a command.
-/

import ModuleBundler.Compress
import ModuleBundler.Config.Load
import ModuleBundler.Proofs.Bundle.Run
import ModuleBundler.Proofs.Job

namespace ModuleBundler

/-! ## Variable names -/

/-- A character that a variable name may start with: `[A-Za-z_$]`. -/
def NameStart (c : Char) : Prop :=
  ('A' ≤ c ∧ c ≤ 'Z') ∨ ('a' ≤ c ∧ c ≤ 'z') ∨ c = '_' ∨ c = '$'

/-- A variable name: `[A-Za-z_$][A-Za-z0-9_$]*`. -/
def VariableName (text : String) : Prop :=
  ∃ first rest, text.toList = first :: rest ∧ NameStart first ∧
    ∀ c ∈ rest, NameStart c ∨ ('0' ≤ c ∧ c ≤ '9')

theorem isNameStart_iff {c : Char} : isNameStart c = true ↔ NameStart c := by
  have hupper : c.isUpper = true ↔ 'A' ≤ c ∧ c ≤ 'Z' := decide_eq_true_iff
  have hlower : c.isLower = true ↔ 'a' ≤ c ∧ c ≤ 'z' := by
    show (decide ('a' ≤ c) && decide (c ≤ 'z')) = true ↔ _
    rw [Bool.and_eq_true, decide_eq_true_iff, decide_eq_true_iff]
  show (c.isUpper || c.isLower || c == '_' || c == '$') = true ↔ _
  rw [Bool.or_eq_true, Bool.or_eq_true, Bool.or_eq_true, hupper, hlower, beq_iff_eq, beq_iff_eq,
    or_assoc, or_assoc, NameStart]

theorem isVariableName_iff {text : String} : isVariableName text = true ↔ VariableName text := by
  have hdigit (c : Char) : c.isDigit = true ↔ '0' ≤ c ∧ c ≤ '9' := by
    simp only [Char.isDigit, Bool.and_eq_true, decide_eq_true_eq]
    rfl
  unfold isVariableName VariableName
  cases text.toList with
  | nil => simp
  | cons first rest => simp [isNameStart_iff, hdigit]

/-! ## Options -/

/-- One layer of options says nothing that cannot be used. An empty variable name can be: it
masks the one below it. -/
structure Overrides.Usable (o : Overrides) : Prop where
  token : o.definitionToken ≠ some ""
  variableName : ∀ name, o.varName = some name → name ≠ "" → VariableName name

/-- The options of a target can be used. -/
structure Options.Usable (o : Options) : Prop where
  token : o.definitionToken ≠ ""
  variableName : ∀ name, o.varName = some name → VariableName name

namespace Overrides

theorem checkToken_eq_ok_iff {o : Overrides} :
    check.checkToken o = .ok () ↔ o.definitionToken ≠ some "" := by
  unfold check.checkToken
  split <;> simp_all

theorem check_eq_ok_iff {o : Overrides} : o.check = .ok () ↔ o.Usable := by
  have hsplit : o.Usable ↔ (∀ name, o.varName = some name → name ≠ "" → VariableName name) ∧
      o.definitionToken ≠ some "" :=
    ⟨fun h => ⟨h.variableName, h.token⟩, fun h => ⟨h.2, h.1⟩⟩
  rw [hsplit, ← checkToken_eq_ok_iff, check]
  cases hname : o.varName with
  | none => simp
  | some name =>
    have hrefused : (name ≠ "" && !isVariableName name) = true ↔
        ¬ (name ≠ "" → VariableName name) := by
      simp [← isVariableName_iff]
    simp only [Option.some.injEq, forall_eq']
    split
    · next h => simp [hrefused.mp h]
    · next h =>
      have hname : name ≠ "" → VariableName name := not_not.mp (mt hrefused.mpr h)
      exact ⟨fun htoken => ⟨hname, htoken⟩, And.right⟩

/-- Resolving two layers that can be used gives options that can be used. -/
theorem Usable.resolve {global target : Overrides} (hglobal : global.Usable)
    (htarget : target.Usable) : (Options.resolve global target).Usable := by
  constructor
  · intro hempty
    change (target.definitionToken <|> global.definitionToken).getD "define(" = "" at hempty
    cases htoken : target.definitionToken with
    | some token =>
      have : token = "" := by simpa [htoken] using hempty
      exact htarget.token (by rw [htoken, this])
    | none =>
      cases hlower : global.definitionToken with
      | some token =>
        have : token = "" := by simpa [htoken, hlower] using hempty
        exact hglobal.token (by rw [hlower, this])
      | none => simp [htoken, hlower] at hempty
  · intro name hname
    change (target.varName <|> global.varName).filter (· ≠ "") = some name at hname
    obtain ⟨hname, hne⟩ := Option.filter_eq_some_iff.mp hname
    have hne : name ≠ "" := by simpa using hne
    cases hupper : target.varName with
    | some upper =>
      rw [hupper] at hname
      exact htarget.variableName name (hupper.trans hname) hne
    | none =>
      rw [hupper] at hname
      exact hglobal.variableName name hname hne

end Overrides

/-! ## Configurations -/

namespace Config

/-- A configuration says nothing that cannot be used, in any of its layers of options and in
its command. -/
structure Usable (c : Config) : Prop where
  global : c.bundle.options.Usable
  targets : ∀ entry ∈ c.bundle.targets, entry.2.options.Usable
  command : ∀ section_, c.compress = some section_ → section_.command ≠ []

/-- The check passes exactly the configurations that can be used. -/
theorem check_eq_ok_iff {c : Config} : c.check = .ok () ↔ c.Usable := by
  constructor
  · intro h
    unfold check at h
    obtain ⟨⟨⟩, hglobal, h⟩ := Job.exists_of_bind_eq_ok h
    obtain ⟨⟨⟩, htargets, h⟩ := Job.exists_of_bind_eq_ok h
    refine ⟨Overrides.check_eq_ok_iff.mp hglobal, fun entry hentry => ?_, ?_⟩
    · exact Overrides.check_eq_ok_iff.mp (Job.forM_eq_ok_iff.mp htargets entry hentry)
    · rintro ⟨command⟩ hsection rfl
      rw [hsection] at h
      cases h
  · rintro ⟨hglobal, htargets, hcommand⟩
    have htargets :
        c.bundle.targets.entries.forM (fun entry => entry.2.options.check) = .ok () := by
      refine Job.forM_eq_ok_iff.mpr fun entry hentry => ?_
      exact Overrides.check_eq_ok_iff.mpr (htargets entry hentry)
    unfold check
    rw [Overrides.check_eq_ok_iff.mpr hglobal, htargets]
    cases hsection : c.compress with
    | none => rfl
    | some section_ =>
      obtain ⟨command⟩ := section_
      cases command with
      | nil => exact absurd rfl (hcommand _ hsection)
      | cons word words => rfl

theorem Usable.options {c : Config} (h : c.Usable) {entry : String × TargetSection}
    (hentry : entry ∈ c.bundle.targets) :
    (Options.resolve c.bundle.options entry.2.options).Usable :=
  h.global.resolve (h.targets entry hentry)

/-- A configuration that is loaded has passed the check. -/
theorem check_of_load {explicit : Option Path} {s s' : Session} {c : Config}
    (h : (load explicit).run s = (.ok c, s')) : c.check = .ok () := by
  rw [load, Job.run_bind] at h
  split at h
  · rw [Job.run_bind_of_ok (Job.run_get _), Job.run_bind] at h
    split at h
    · next loaded s₁ _ =>
      split at h
      · next hcheck =>
        obtain ⟨hsame, -⟩ := Prod.mk.inj h
        obtain rfl : loaded = c := Except.ok.inj hsame
        exact hcheck
      · cases h
    · cases h
  · cases h

/-! ## Files of a target -/

/-- With options that can be used, the answer that there is no token is about the file. -/
theorem detection_eq_tokenMissing_iff {o : Options} (h : o.Usable) {file : SourceFile} :
    Bundle.detection o file = .notAModule .tokenMissing ↔
      ¬ o.definitionToken.toList <:+: file.content.toList := by
  have hne : o.definitionToken.toList ≠ [] := fun hnil =>
    h.token (String.toList_eq_nil_iff.mp hnil)
  rw [Bundle.detection, Definition.detect_eq_tokenMissing_iff, or_iff_right hne]

/-- What a named file adds, with options that can be used: its statement, where there is one,
sets a variable name. -/
theorem exists_statement_of_named {o : Options} (h : o.Usable) {b : Bundle} {file : SourceFile}
    {id : Identifier} (hnamed : (b.push o file).1 = .ok (.named id)) :
    ∃ head middle tail statement : String, file.content = head ++ middle ++ tail ∧
      (b.push o file).2.content = b.content ++ (head ++ "'" ++ id.text ++ "', " ++ middle ++ "\n" ++
        statement ++ tail ++ "\n\n") ∧
      (o.varName = none ∧ statement = "" ∨ ∃ name, VariableName name ∧ o.varName = some name ∧
        statement = "    var " ++ name ++ " = '" ++ id.text ++ "';") := by
  rw [(Bundle.push_snd b o file).1]
  rw [Bundle.push_fst] at hnamed
  have hadds := Bundle.adds_of_verdict hnamed
  generalize Bundle.addition o file = piece at hadds ⊢
  cases hadds with
  | @named _ span head middle tail _ _ _ hcontent _ _ =>
    refine ⟨head, middle, tail, _, hcontent, rfl, ?_⟩
    cases hname : o.varName with
    | none => exact .inl ⟨rfl, rfl⟩
    | some name => exact .inr ⟨name, h.variableName name hname, rfl, rfl⟩

/-- **A check covers the options that count.** The check passes exactly the configurations in
which no layer of options has an empty definition token or a variable name that is neither empty
nor a name, and no compress section is without a command. Then the options of every target, its
layer laid over the global one, have a token, and their variable, if there is one, is a name.

So it is for every configuration that is loaded, the environment included. For each target of it
and each file, the search answers that there is no token only where the token does not stand in
the file; what a named file adds sets a variable name, or no variable; and there is a compressor
for its compress section. -/
theorem check_covers_options (c : Config) :
    (c.check = .ok () ↔ c.Usable) ∧
    (c.check = .ok () → ∀ entry ∈ c.bundle.targets,
      (Options.resolve c.bundle.options entry.2.options).Usable) ∧
    ∀ (explicit : Option Path) (s s' : Session), (load explicit).run s = (.ok c, s') →
      (∀ entry ∈ c.bundle.targets, ∀ (b : Bundle) (file : SourceFile),
        let o := Options.resolve c.bundle.options entry.2.options
        o.Usable ∧
        (Bundle.detection o file = .notAModule .tokenMissing ↔
          ¬ o.definitionToken.toList <:+: file.content.toList) ∧
        ∀ id, (b.push o file).1 = .ok (.named id) →
          ∃ head middle tail statement : String, file.content = head ++ middle ++ tail ∧
            (b.push o file).2.content = b.content ++ (head ++ "'" ++ id.text ++ "', " ++ middle ++
              "\n" ++ statement ++ tail ++ "\n\n") ∧
            (o.varName = none ∧ statement = "" ∨ ∃ name, VariableName name ∧
              o.varName = some name ∧ statement = "    var " ++ name ++ " = '" ++ id.text ++ "';")) ∧
      ∀ section_, c.compress = some section_ → ∀ workingDir : Path,
        Compress.Compressor.ofSection section_ workingDir = .ok ⟨section_.command, workingDir⟩ := by
  refine ⟨check_eq_ok_iff, fun hcheck entry hentry => (check_eq_ok_iff.mp hcheck).options hentry,
    fun explicit s s' hload => ?_⟩
  have husable : c.Usable := check_eq_ok_iff.mp (check_of_load hload)
  refine ⟨fun entry hentry b file => ?_, fun section_ hsection workingDir => ?_⟩
  · have hoptions := husable.options hentry
    exact ⟨hoptions, detection_eq_tokenMissing_iff hoptions,
      fun id hnamed => exists_statement_of_named hoptions hnamed⟩
  · have hcommand := husable.command section_ hsection
    simp [Compress.Compressor.ofSection, hcommand]

/-- A variable name from the environment counts for a target without one, and an empty one of
another target masks it. -/
theorem check_covers_options_environment :
    let text := "[bundle.app]\n[bundle.libs.options]\nvar_name = ''\n[compress]\ncommand = ['mini']\n"
    let s : Session :=
      { tree := { entries := [(["project.toml"], .file (.text text))] }
        environment := [("AMDBUNDLE_VAR_NAME", "$file")] }
    ∃ c s', (load (some ⟨"/project.toml"⟩)).run s = (.ok c, s') ∧
      c.bundle.targets.map (fun entry =>
        (entry.1, (Options.resolve c.bundle.options entry.2.options).varName)) =
          [("app", some "$file"), ("libs", none)] ∧
      c.Usable ∧ ∀ entry ∈ c.bundle.targets,
        (Options.resolve c.bundle.options entry.2.options).Usable := by
  intro text s
  have hnames : ((load (some ⟨"/project.toml"⟩)).run s).1.toOption.map (fun c =>
      c.bundle.targets.map fun entry =>
        (entry.1, (Options.resolve c.bundle.options entry.2.options).varName)) =
      some [("app", some "$file"), ("libs", none)] := by
    decide +kernel
  obtain ⟨c, hc, hnames⟩ := Option.map_eq_some_iff.mp hnames
  have hload : (load (some ⟨"/project.toml"⟩)).run s =
      (.ok c, ((load (some ⟨"/project.toml"⟩)).run s).2) :=
    Prod.ext (Job.eq_ok_of_toOption_eq_some hc) rfl
  obtain ⟨hcheck, -, hloaded⟩ := check_covers_options c
  refine ⟨c, _, hload, hnames, hcheck.mp (check_of_load hload), fun entry hentry => ?_⟩
  exact ((hloaded _ _ _ hload).1 entry hentry {} ⟨⟨"", ⟨""⟩⟩, ""⟩).1

end Config

end ModuleBundler
