/-
# ModuleBundler.Proofs.Job -- taking the steps of a run apart

A job gives an outcome and a session. These lemmas say what each step gives, so
that a run of several steps is read off the runs of its parts.
-/

import Mathlib.Data.List.Forall2
import ModuleBundler.Session

namespace ModuleBundler.Job

variable {α β : Type}

/-! ## Outcomes -/

/-- A computation with a result had a result at its first step. -/
theorem exists_of_bind_eq_ok {ε : Type} {first : Except ε α} {next : α → Except ε β} {b : β}
    (h : (first >>= next) = .ok b) : ∃ a, first = .ok a ∧ next a = .ok b := by
  cases first with
  | error e => cases h
  | ok a => exact ⟨a, rfl, h⟩

theorem bind_eq_ok_iff {ε : Type} {first : Except ε α} {next : α → Except ε β} {b : β} :
    (first >>= next) = .ok b ↔ ∃ a, first = .ok a ∧ next a = .ok b := by
  refine ⟨exists_of_bind_eq_ok, ?_⟩
  rintro ⟨a, rfl, h⟩
  exact h

/-- A result that was changed comes from a result. -/
theorem exists_of_map_eq_ok {ε : Type} {f : α → β} {outcome : Except ε α} {b : β}
    (h : outcome.map f = .ok b) : ∃ a, outcome = .ok a ∧ f a = b := by
  cases outcome with
  | error e => cases h
  | ok a => exact ⟨a, rfl, Except.ok.inj h⟩

/-- A computation for each entry of a list succeeds exactly if every one of them does. -/
theorem forM_eq_ok_iff {ε : Type} {run : α → Except ε Unit} {entries : List α} :
    entries.forM run = .ok () ↔ ∀ entry ∈ entries, run entry = .ok () := by
  induction entries with
  | nil => simp [List.forM, pure, Except.pure]
  | cons entry rest ih =>
    rw [List.forall_mem_cons, ← ih]
    change (run entry >>= fun _ => rest.forM run) = .ok () ↔ _
    cases run entry with
    | error e => simp [bind, Except.bind]
    | ok done => simp [bind, Except.bind]

/-- The results for a list are the results for its entries, one by one. -/
theorem mapM_eq_ok_iff {ε : Type} {run : α → Except ε β} {entries : List α} {results : List β} :
    entries.mapM run = .ok results ↔ List.Forall₂ (fun a b => run a = .ok b) entries results := by
  induction entries generalizing results with
  | nil =>
    rw [List.mapM_nil, List.forall₂_nil_left_iff]
    exact ⟨fun h => (Except.ok.inj h).symm, fun h => congrArg Except.ok h.symm⟩
  | cons entry rest ih =>
    rw [List.mapM_cons, List.forall₂_cons_left_iff]
    constructor
    · intro h
      obtain ⟨b, hb, h⟩ := exists_of_bind_eq_ok h
      obtain ⟨more, hmore, h⟩ := exists_of_bind_eq_ok h
      cases h
      exact ⟨b, more, hb, ih.mp hmore, rfl⟩
    · rintro ⟨b, more, hb, hmore, rfl⟩
      rw [hb, ih.mpr hmore]
      rfl

theorem eq_ok_of_toOption_eq_some {ε : Type} {outcome : Except ε α} {a : α}
    (h : outcome.toOption = some a) : outcome = .ok a := by
  cases outcome with
  | error e => cases h
  | ok b => rw [Option.some.inj h]

/-! ## Single steps -/

@[simp] theorem run_pure (a : α) (s : Session) : (pure a : Job α).run s = (.ok a, s) := rfl

@[simp] theorem run_get (s : Session) : (get : Job Session).run s = (.ok s, s) := rfl

@[simp] theorem run_set (s s' : Session) : (set s' : Job Unit).run s = (.ok (), s') := rfl

@[simp] theorem run_fail (f : Failure) (s : Session) :
    (fail f : Job α).run s = (.error f, s) := rfl

@[simp] theorem run_ofExcept (outcome : Except Failure α) (s : Session) :
    (ofExcept outcome).run s = (outcome, s) := by
  cases outcome <;> rfl

@[simp] theorem run_report (event : Log.Event) (s : Session) :
    (report event).run s = (.ok (), { s with notices := s.notices ++ [.event event] }) := rfl

/-- A run with a result, and the session that it ends in. -/
theorem run_eq_of_toOption {ran : Except Failure α × Session} {a : α}
    (h : ran.1.toOption = some a) : ran = (.ok a, ran.2) :=
  Prod.ext (eq_ok_of_toOption_eq_some h) rfl

theorem exists_of_isSome {ran : Except Failure α × Session} (h : ran.1.toOption.isSome = true) :
    ∃ a, ran = (.ok a, ran.2) := by
  obtain ⟨a, ha⟩ := Option.isSome_iff_exists.mp h
  exact ⟨a, run_eq_of_toOption ha⟩

/-! ## Sequences -/

/-- A step behind another one runs where that one ended, if it did not fail. -/
theorem run_bind (job : Job α) (next : α → Job β) (s : Session) :
    (job >>= next).run s =
      match job.run s with
      | (.ok a, s') => (next a).run s'
      | (.error f, s') => (.error f, s') := by
  change (match job.run s with
    | (outcome, s') => (ExceptT.bindCont next outcome : StateM Session (Except Failure β)) s') = _
  rcases job.run s with ⟨_ | a, s'⟩ <;> rfl

theorem run_bind_of_ok {job : Job α} {s s' : Session} {a : α} (h : job.run s = (.ok a, s'))
    (next : α → Job β) : (job >>= next).run s = (next a).run s' := by
  rw [run_bind, h]

theorem run_bind_of_error {job : Job α} {s s' : Session} {f : Failure}
    (h : job.run s = (.error f, s')) (next : α → Job β) :
    (job >>= next).run s = (.error f, s') := by
  rw [run_bind, h]

/-- The same for steps that cannot fail. -/
theorem run_bind_of_eq {first : StateM Session α} {s s' : Session} {a : α}
    (h : first.run s = (a, s')) (next : α → StateM Session β) :
    (first >>= next).run s = (next a).run s' := by
  rw [StateT.run_bind, h]
  rfl

/-- Reports only add to what was reported. -/
theorem run_forM_report (events : List Log.Event) (s : Session) :
    (events.forM report).run s =
      (.ok (), { s with notices := s.notices ++ events.map .event }) := by
  induction events generalizing s with
  | nil => simp [List.forM]
  | cons event rest ih =>
    rw [List.forM, run_bind_of_ok (run_report event s), ih]
    simp

end ModuleBundler.Job
