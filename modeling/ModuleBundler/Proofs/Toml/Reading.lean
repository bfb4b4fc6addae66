/-
# ModuleBundler.Proofs.Toml.Reading -- what holds of the things that are read

A reader gives things with a property if all that it reads from any text has it, however the text
goes on and wherever the reader refuses. What a reader that is made of others gives is read off
what those give, with one lemma for each way to put readers together.
-/

import Mathlib.Data.List.Defs
import ModuleBundler.Toml.Reader

namespace ModuleBundler.Toml.Reader

variable {α β : Type}

/-- All that is read has a property. -/
def Gives (read : Reader α) (p : α → Prop) : Prop :=
  ∀ rest a left, read rest = (.ok a, left) → p a

variable {p : α → Prop} {q : β → Prop} {read : Reader α}

/-! ## Single steps -/

theorem gives_any (read : Reader α) : Gives read fun _ => True :=
  fun _ _ _ _ => trivial

theorem gives_pure {a : α} (h : p a) : Gives (pure a) p := by
  intro rest b left hread
  cases hread
  exact h

theorem gives_throw (r : Refusal) : Gives (throw r) p := by
  intro rest a left hread
  cases hread

theorem gives_refuse : Gives (refuse : Reader α) p := gives_throw {}

/-! ## Sequences -/

/-- A reader behind another one reads where that one ended, if it did not refuse. -/
theorem bind_apply (read : Reader α) (next : α → Reader β) (rest : List Char) :
    (read >>= next) rest =
      match read rest with
      | (.ok a, left) => next a left
      | (.error r, left) => (.error r, left) := by
  change (match read rest with
    | (outcome, left) => (ExceptT.bindCont next outcome : StateM _ (Except Refusal β)) left) = _
  rcases read rest with ⟨_ | a, left⟩ <;> rfl

/-- What is read in the end has its property from the thing that was read first. -/
theorem gives_bind {next : α → Reader β} (hread : Gives read p)
    (hnext : ∀ a, p a → Gives (next a) q) : Gives (read >>= next) q := by
  intro rest b left h
  rw [bind_apply] at h
  rcases hfirst : read rest with ⟨r | a, behind⟩
  · rw [hfirst] at h
    cases h
  · rw [hfirst] at h
    exact hnext a (hread rest a behind hfirst) behind b left h

/-- The same, where the property does not depend on what was read first. -/
theorem gives_bind_any {next : α → Reader β} (hnext : ∀ a, Gives (next a) q) :
    Gives (read >>= next) q :=
  gives_bind (gives_any read) fun a _ => hnext a

theorem gives_map {f : α → β} (h : Gives read fun a => q (f a)) : Gives (f <$> read) q := by
  rw [← bind_pure_comp]
  exact gives_bind h fun a ha => gives_pure ha

theorem gives_map_any {f : α → β} (h : ∀ a, q (f a)) : Gives (f <$> read) q :=
  gives_map fun _ a _ _ => h a

theorem gives_spanned (h : Gives read p) : Gives (spanned read) fun placed => p placed.2 :=
  gives_bind_any fun _ => gives_bind h fun _ ha => gives_bind_any fun _ => gives_pure ha

/-- What passes a test has its property from the thing that was tested. -/
theorem gives_checked {test : α → Except String β} (hread : Gives read p)
    (htest : ∀ a b, p a → test a = .ok b → q b) : Gives (checked read test) q := by
  refine gives_bind_any fun start => gives_bind hread fun a ha => ?_
  split
  · next b hb => exact gives_pure (htest a b ha hb)
  · exact gives_bind_any fun _ => gives_throw _

/-! ## Choices -/

/-- A refusal is handed on to what is tried in its place. -/
theorem tryCatch_apply (read : Reader α) (second : Refusal → Reader α) (rest : List Char) :
    (tryCatch read second) rest =
      match read rest with
      | (.ok a, left) => (.ok a, left)
      | (.error r, left) => second r left := by
  change ExceptT.tryCatch read second rest = _
  unfold ExceptT.tryCatch ExceptT.mk
  simp only [bind, StateT.bind]
  rcases read rest with ⟨_ | a, left⟩ <;> rfl

theorem gives_tryCatch {second : Refusal → Reader α} (hread : Gives read p)
    (hsecond : ∀ r, Gives (second r) p) : Gives (tryCatch read second) p := by
  intro rest a left h
  rw [tryCatch_apply] at h
  rcases hfirst : read rest with ⟨r | b, behind⟩
  · rw [hfirst] at h
    exact hsecond r behind a left h
  · rw [hfirst] at h
    cases h
    exact hread rest a left hfirst

theorem gives_ite {c : Prop} [Decidable c] {second : Reader α} (hfirst : Gives read p)
    (hsecond : Gives second p) : Gives (if c then read else second) p := by
  split
  · exact hfirst
  · exact hsecond

theorem gives_adjusted (h : Gives read p) (change : Refusal → Refusal) :
    Gives (adjusted change read) p :=
  gives_tryCatch h fun _ => gives_throw _

theorem gives_final (h : Gives read p) : Gives (final read) p := gives_adjusted h _

theorem gives_named (h : Gives read p) (what : String) : Gives (named what read) p :=
  gives_adjusted h _

theorem gives_wanting (h : Gives read p) (names : List String) : Gives (wanting names read) p :=
  gives_adjusted h _

theorem gives_orElse {second : Reader α} (hfirst : Gives read p) (hsecond : Gives second p) :
    Gives (orElse read second) p := by
  refine gives_bind_any fun start => gives_tryCatch hfirst fun r => ?_
  split
  · exact gives_throw r
  · exact gives_bind_any fun _ => hsecond

theorem gives_maybe (h : Gives read p) : Gives (maybe read) fun found => ∀ a ∈ found, p a := by
  refine gives_orElse (gives_map fun rest a left hread => ?_) (gives_pure ?_)
  · rintro b ⟨⟩
    exact h rest a left hread
  · rintro a ⟨⟩

/-! ## Repetitions -/

theorem gives_manyUpTo (h : Gives read p) (n : Nat) :
    Gives (manyUpTo read n) fun found => ∀ a ∈ found, p a := by
  induction n with
  | zero => exact gives_pure (by simp)
  | succ n ih =>
    refine gives_bind (gives_maybe h) fun found hfound => ?_
    cases found with
    | none => exact gives_pure (by simp)
    | some a =>
      exact gives_bind ih fun more hmore =>
        gives_pure (List.forall_mem_cons.mpr ⟨hfound a rfl, hmore⟩)

theorem gives_many (h : Gives read p) : Gives (many read) fun found => ∀ a ∈ found, p a :=
  gives_bind_any fun _ => gives_manyUpTo h _

theorem gives_separated {separator : Reader Unit} (h : Gives read p) :
    Gives (separated separator read) fun found => ∀ a ∈ found, p a := by
  have hsome : Gives (separated1 separator read) fun found => ∀ a ∈ found, p a :=
    gives_bind h fun a ha => gives_bind (gives_many (gives_bind_any fun _ => h)) fun more hmore =>
      gives_pure (List.forall_mem_cons.mpr ⟨ha, hmore⟩)
  refine gives_bind (gives_maybe hsome) fun found hfound => gives_pure ?_
  cases found with
  | none => simp
  | some all => exact hfound all rfl

/-! ## Whole texts -/

theorem Gives.apply {text : List Char} {a : α} (h : Gives read p)
    (happly : read.apply text = .ok a) : p a := by
  rw [Reader.apply] at happly
  rcases hread : read text with ⟨r | b, left⟩
  · rw [hread] at happly
    cases happly
  · rw [hread] at happly
    cases happly
    exact h text a left hread

end ModuleBundler.Toml.Reader
