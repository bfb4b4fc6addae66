/-
# ModuleBundler.Proofs.Watch.History -- what becomes of every signal

The state of the loop forgets: a burst is one flag, and a rebuild one more in a count.
`History` writes down what was forgotten, and `Run` is the loop together with its
history, step by step. Nothing is left out by that: the states that steps reach are
those that a run reaches (`reachable_iff`).

The history and the state account for each other (`Run.accounted`): every signal that
arrived stands in one place, in the order of arrival, and every burst that is over
started as many rebuilds as it should.

Main statement: `no_change_lost`.
-/

import Mathlib.Algebra.Ring.Nat
import Mathlib.Logic.Relation
import ModuleBundler.Watch.Loop

namespace ModuleBundler.Watch

open Relation (ReflTransGen)

namespace Loop

/-! ## What a step can do -/

variable {scope : Scope} {l l' : Loop}

theorem take?_eq_some_iff :
    l.take? scope = some l' ↔ l.rebuilding = false ∧ ∃ signal rest, l.queue = signal :: rest ∧
      l' = { l with queue := rest, burst := some (l.burst.getD false || scope.isRelevant signal) } := by
  unfold take?
  constructor
  · intro h
    split at h
    · next signal rest hidle hqueue => exact ⟨hidle, signal, rest, hqueue, (Option.some.inj h).symm⟩
    · cases h
  · rintro ⟨hidle, signal, rest, hqueue, rfl⟩
    rw [hidle, hqueue]

theorem expire?_eq_some_iff :
    l.expire? = some l' ↔ l.rebuilding = false ∧ ∃ relevant, l.burst = some relevant ∧
      l' = { l with
        burst := none, rebuilding := relevant, rebuilds := l.rebuilds + relevant.toNat } := by
  unfold expire?
  constructor
  · intro h
    split at h
    · next hidle hburst => exact ⟨hidle, true, hburst, (Option.some.inj h).symm⟩
    · next hidle hburst =>
      refine ⟨hidle, false, hburst, ?_⟩
      simp [← Option.some.inj h, hidle]
    · cases h
  · rintro ⟨hidle, relevant, hburst, rfl⟩
    cases relevant <;> simp [hidle, hburst]

theorem finish?_eq_some_iff :
    l.finish? = some l' ↔ l.rebuilding = true ∧ l' = { l with rebuilding := false } := by
  unfold finish?
  cases hbusy : l.rebuilding <;> simp [eq_comm]

/-- The states that steps reach from the start. -/
def Reachable (scope : Scope) : Loop → Prop :=
  ReflTransGen (Step scope) {}

end Loop

/-! ## Runs and what they leave behind -/

/-- A burst that is over. -/
structure Burst where
  /-- Its signals, in the order in which they were taken. -/
  signals : List Signal
  /-- How many rebuilds were started when it was over, and so when all its signals had
  been taken. -/
  rebuilds : Nat
  deriving DecidableEq, Repr

/-- What happened so far. -/
structure History where
  /-- Every signal that arrived, the oldest first. -/
  arrived : List Signal := []
  /-- The bursts that are over, the oldest first. -/
  past : List Burst := []
  /-- The signals of the burst at hand. -/
  atHand : List Signal := []
  /-- For each rebuild that ended, whether it ended well. -/
  ends : List Bool := []
  deriving DecidableEq, Repr

/-- The loop with its history, by steps in any order. -/
inductive Run (scope : Scope) : History → Loop → Prop
  | start : Run scope {} {}
  | arrive {h : History} {l : Loop} (signal : Signal) : Run scope h l →
      Run scope { h with arrived := h.arrived ++ [signal] } (l.arrive signal)
  | take {h : History} {l l' : Loop} {signal : Signal} {rest : List Signal} : Run scope h l →
      l.queue = signal :: rest → l.take? scope = some l' →
      Run scope { h with atHand := h.atHand ++ [signal] } l'
  | expire {h : History} {l l' : Loop} : Run scope h l → l.expire? = some l' →
      Run scope { h with
        past := h.past ++ [⟨h.atHand, l'.rebuilds - l.rebuilds⟩], atHand := [] } l'
  | succeed {h : History} {l l' : Loop} : Run scope h l → l.finish? = some l' →
      Run scope { h with ends := h.ends ++ [true] } l'
  | fail {h : History} {l l' : Loop} : Run scope h l → l.finish? = some l' →
      Run scope { h with ends := h.ends ++ [false] } l'

/-- Where a relevant signal is that arrived before the signals `later`: it still waits;
or it is in the burst at hand, which is marked as relevant; or it is in a burst that is
over, and one rebuild was started since it was taken. -/
inductive Kept (h : History) (l : Loop) (signal : Signal) (later : List Signal) : Prop
  | queued {sooner : List Signal} : l.queue = sooner ++ signal :: later → Kept h l signal later
  | pending {sooner rest : List Signal} : h.atHand = sooner ++ signal :: rest →
      later = rest ++ l.queue → l.burst = some true → Kept h l signal later
  | answered {older newer : List Burst} {b : Burst} {sooner rest : List Signal} :
      h.past = older ++ b :: newer → b.signals = sooner ++ signal :: rest →
      later = rest ++ newer.flatMap Burst.signals ++ h.atHand ++ l.queue → b.rebuilds = 1 →
      Kept h l signal later

/-- Whether a signal tells of a change; the others tell that watching went wrong. -/
def Signal.isChange : Signal → Bool
  | .change _ _ => true
  | .problem _ => false

/-- The history without the signals that tell of no change, and without the bursts that
are made of these only. -/
def History.changesOnly (h : History) : History where
  arrived := h.arrived.filter Signal.isChange
  past := (h.past.map fun b => { b with signals := b.signals.filter Signal.isChange }).filter
    fun b => !b.signals.isEmpty
  atHand := h.atHand.filter Signal.isChange
  ends := h.ends

variable {scope : Scope} {h : History} {l : Loop}

theorem Run.reachable (hrun : Run scope h l) : Loop.Reachable scope l := by
  induction hrun with
  | start => exact .refl
  | arrive signal _ ih => exact ih.tail (.arrive _ signal)
  | take _ _ htake ih => exact ih.tail (.take htake)
  | expire _ hexpire ih => exact ih.tail (.expire hexpire)
  | succeed _ hfinish ih => exact ih.tail (.succeed hfinish)
  | fail _ hfinish ih => exact ih.tail (.fail hfinish)

/-- Every state that steps reach has a history. -/
theorem reachable_iff : Loop.Reachable scope l ↔ ∃ h, Run scope h l := by
  constructor
  · intro hreach
    induction hreach with
    | refl => exact ⟨_, .start⟩
    | tail _ hstep ih =>
      obtain ⟨h, hrun⟩ := ih
      cases hstep with
      | arrive signal => exact ⟨_, hrun.arrive signal⟩
      | take htake =>
        obtain ⟨-, signal, rest, hqueue, -⟩ := Loop.take?_eq_some_iff.mp htake
        exact ⟨_, hrun.take hqueue htake⟩
      | expire hexpire => exact ⟨_, hrun.expire hexpire⟩
      | succeed hfinish => exact ⟨_, hrun.succeed hfinish⟩
      | fail hfinish => exact ⟨_, hrun.fail hfinish⟩
  · rintro ⟨h, hrun⟩
    exact hrun.reachable

/-! ## The history accounts for the state -/

/-- How a history and a state of the loop belong together. -/
structure Accounted (scope : Scope) (h : History) (l : Loop) : Prop where
  /-- Every signal that arrived stands in one place. -/
  placed : h.arrived = h.past.flatMap Burst.signals ++ h.atHand ++ l.queue
  flagged : l.burst = if h.atHand = [] then none else some (h.atHand.any scope.isRelevant)
  /-- A burst started one rebuild if a signal of it was relevant, and none otherwise. -/
  answered : ∀ b ∈ h.past, b.rebuilds = (b.signals.any scope.isRelevant).toNat
  counted : l.rebuilds = (h.past.map Burst.rebuilds).sum
  /-- Every rebuild ended but the one that is running. -/
  ended : l.rebuilds = h.ends.length + l.rebuilding.toNat

theorem Accounted.burst_eq_some_true_iff (ha : Accounted scope h l) :
    l.burst = some true ↔ h.atHand.any scope.isRelevant = true := by
  rw [ha.flagged]
  split
  · next hnil => simp [hnil]
  · simp

/-- A step of the loop keeps its account. -/
theorem Run.accounted (hrun : Run scope h l) : Accounted scope h l := by
  induction hrun with
  | start => exact ⟨rfl, rfl, by simp, rfl, rfl⟩
  | arrive signal _ ih =>
    exact ⟨by simp [Loop.arrive, ih.placed], ih.flagged, ih.answered, ih.counted, ih.ended⟩
  | @take h l _ signal rest _ hqueue htake ih =>
    obtain ⟨-, signal', rest', hqueue', rfl⟩ := Loop.take?_eq_some_iff.mp htake
    obtain ⟨rfl, rfl⟩ := List.cons.inj (hqueue.symm.trans hqueue')
    refine ⟨by simp [ih.placed, hqueue], ?_, ih.answered, ih.counted, ih.ended⟩
    have hflag : l.burst.getD false = h.atHand.any scope.isRelevant := by
      rw [ih.flagged]
      split
      · next hnil => simp [hnil]
      · rfl
    simp [hflag]
  | @expire h l _ _ hexpire ih =>
    obtain ⟨hidle, relevant, hburst, rfl⟩ := Loop.expire?_eq_some_iff.mp hexpire
    have hrelevant : relevant = h.atHand.any scope.isRelevant := by
      rw [ih.flagged] at hburst
      split at hburst
      · cases hburst
      · exact (Option.some.inj hburst).symm
    have hended := ih.ended
    rw [hidle] at hended
    refine ⟨by simp [ih.placed], rfl, ?_, by simp [ih.counted], by simpa using hended⟩
    intro b hb
    rcases List.mem_append.mp hb with hold | hnew
    · exact ih.answered b hold
    · rw [List.mem_singleton.mp hnew, ← hrelevant]
      simp
  | succeed _ hfinish ih =>
    obtain ⟨hbusy, rfl⟩ := Loop.finish?_eq_some_iff.mp hfinish
    exact ⟨ih.placed, ih.flagged, ih.answered, ih.counted, by simp [ih.ended, hbusy]⟩
  | fail _ hfinish ih =>
    obtain ⟨hbusy, rfl⟩ := Loop.finish?_eq_some_iff.mp hfinish
    exact ⟨ih.placed, ih.flagged, ih.answered, ih.counted, by simp [ih.ended, hbusy]⟩

/-! ## Where a signal is -/

/-- What stands in two lists put together stands in one of them. -/
theorem split_of_append_eq {front back sooner later : List Signal} {signal : Signal}
    (h : front ++ back = sooner ++ signal :: later) :
    (∃ rest, front = sooner ++ signal :: rest ∧ later = rest ++ back) ∨
      ∃ gap, back = gap ++ signal :: later := by
  rcases List.append_eq_append_iff.mp h with ⟨gap, -, hback⟩ | ⟨rest, hfront, hback⟩
  · exact .inr ⟨gap, hback⟩
  · cases rest with
    | nil => exact .inr ⟨[], hback.symm⟩
    | cons first rest =>
      obtain ⟨rfl, hlater⟩ := List.cons.inj hback
      exact .inl ⟨rest, hfront, hlater⟩

/-- What stands in the signals of bursts stands in one of the bursts. -/
theorem exists_burst_of_flatMap_eq {bursts : List Burst} {sooner later : List Signal}
    {signal : Signal} (h : bursts.flatMap Burst.signals = sooner ++ signal :: later) :
    ∃ older b newer before rest, bursts = older ++ b :: newer ∧
      b.signals = before ++ signal :: rest ∧ later = rest ++ newer.flatMap Burst.signals := by
  induction bursts generalizing sooner with
  | nil => simp at h
  | cons b more ih =>
    rw [List.flatMap_cons] at h
    rcases split_of_append_eq h with ⟨rest, hb, hlater⟩ | ⟨gap, hmore⟩
    · exact ⟨[], b, more, sooner, rest, rfl, hb, hlater⟩
    · obtain ⟨older, b', newer, before, rest, rfl, hsignals, hlater⟩ := ih hmore
      exact ⟨b :: older, b', newer, before, rest, rfl, hsignals, hlater⟩

/-- A relevant signal is kept wherever it stands. -/
theorem Accounted.kept (ha : Accounted scope h l) {sooner later : List Signal} {signal : Signal}
    (harrived : h.arrived = sooner ++ signal :: later) (hrelevant : scope.isRelevant signal = true) :
    Kept h l signal later := by
  have hplaced := ha.placed.symm.trans harrived
  rcases split_of_append_eq hplaced with ⟨behind, htaken, hlater⟩ | ⟨gap, hqueue⟩
  · rcases split_of_append_eq htaken with ⟨rest, hover, hbehind⟩ | ⟨gap, hatHand⟩
    · obtain ⟨older, b, newer, before, rest', hbursts, hsignals, hrest⟩ :=
        exists_burst_of_flatMap_eq hover
      refine .answered hbursts hsignals (by rw [hlater, hbehind, hrest]) ?_
      have hany : b.signals.any scope.isRelevant = true :=
        List.any_eq_true.mpr ⟨signal, by simp [hsignals], hrelevant⟩
      rw [ha.answered b (by simp [hbursts]), hany]
      rfl
    · have hany : h.atHand.any scope.isRelevant = true :=
        List.any_eq_true.mpr ⟨signal, by simp [hatHand], hrelevant⟩
      exact .pending hatHand hlater (ha.burst_eq_some_true_iff.mpr hany)
  · exact .queued hqueue

/-! ## How many rebuilds there are -/

theorem toNat_any_le_countP (p : Signal → Bool) (signals : List Signal) :
    (signals.any p).toNat ≤ signals.countP p := by
  cases hany : signals.any p with
  | false => exact Nat.zero_le _
  | true => exact List.countP_pos_iff.mpr (List.any_eq_true.mp hany)

/-- No burst starts more rebuilds than it has relevant signals. -/
theorem sum_rebuilds_le {bursts : List Burst}
    (h : ∀ b ∈ bursts, b.rebuilds = (b.signals.any scope.isRelevant).toNat) :
    (bursts.map Burst.rebuilds).sum ≤ (bursts.flatMap Burst.signals).countP scope.isRelevant := by
  induction bursts with
  | nil => exact Nat.le_refl _
  | cons b more ih =>
    have hmore := ih fun b' hb' => h b' (List.mem_cons_of_mem _ hb')
    have hb := toNat_any_le_countP scope.isRelevant b.signals
    rw [← h b List.mem_cons_self] at hb
    simp only [List.map_cons, List.sum_cons, List.flatMap_cons, List.countP_append]
    omega

theorem Accounted.rebuilds_le (ha : Accounted scope h l) :
    l.rebuilds ≤ h.arrived.countP scope.isRelevant := by
  have hle := sum_rebuilds_le ha.answered
  rw [ha.counted, ha.placed, List.countP_append, List.countP_append]
  omega

/-! ## What makes no difference -/

theorem Run.finish (hrun : Run scope h l) {l' : Loop} (hfinish : l.finish? = some l')
    (well : Bool) : Run scope { h with ends := h.ends ++ [well] } l' := by
  cases well with
  | true => exact hrun.succeed hfinish
  | false => exact hrun.fail hfinish

/-- Whether rebuilds end well makes no difference. -/
theorem Run.with_ends (hrun : Run scope h l) {ends : List Bool}
    (hlength : ends.length = h.ends.length) : Run scope { h with ends := ends } l := by
  -- Where a rebuild ended last, the run before it has all ends but the last.
  have hsplit : ∀ {n : Nat} {ends : List Bool}, ends.length = n + 1 →
      ∃ front last, ends = front ++ [last] ∧ front.length = n := by
    intro n ends heq
    refine ⟨ends.dropLast, ends.getLast (List.ne_nil_of_length_eq_add_one heq), ?_, by simp [heq]⟩
    exact (List.dropLast_concat_getLast _).symm
  induction hrun generalizing ends with
  | start =>
    obtain rfl := List.length_eq_zero_iff.mp hlength
    exact .start
  | arrive signal _ ih => exact (ih hlength).arrive signal
  | take _ hqueue htake ih => exact (ih hlength).take hqueue htake
  | expire _ hexpire ih => exact (ih hlength).expire hexpire
  | succeed _ hfinish ih | fail _ hfinish ih =>
    obtain ⟨front, last, rfl, hfront⟩ := hsplit (by simpa using hlength)
    exact (ih hfront).finish hfinish last

theorem isRelevant_of_not_isChange {signal : Signal} (h : signal.isChange = false) :
    scope.isRelevant signal = false := by
  cases signal with
  | change kind paths => cases h
  | problem message => rfl

/-- Only signals that tell of a change are relevant. -/
theorem any_isRelevant_filter (scope : Scope) (signals : List Signal) :
    (signals.filter Signal.isChange).any scope.isRelevant = signals.any scope.isRelevant := by
  induction signals with
  | nil => rfl
  | cons signal rest ih =>
    cases hchange : signal.isChange with
    | true => simp [hchange, ih]
    | false => simp [hchange, ih, isRelevant_of_not_isChange hchange]

/-- A state of the loop, and the state it would be in had watching never gone wrong. -/
structure SameBesides (l l' : Loop) : Prop where
  queue : l'.queue = l.queue.filter Signal.isChange
  rebuilding : l'.rebuilding = l.rebuilding
  rebuilds : l'.rebuilds = l.rebuilds

/-- Signals that tell of no change make no difference. -/
theorem Run.changesOnly (hrun : Run scope h l) :
    ∃ l', Run scope h.changesOnly l' ∧ SameBesides l l' := by
  induction hrun with
  | start => exact ⟨_, .start, rfl, rfl, rfl⟩
  | arrive signal _ ih =>
    obtain ⟨l', hrun', hsame⟩ := ih
    cases hchange : signal.isChange with
    | true =>
      refine ⟨l'.arrive signal, ?_, ?_, hsame.rebuilding, hsame.rebuilds⟩
      · simpa [History.changesOnly, hchange] using hrun'.arrive signal
      · simp [Loop.arrive, hsame.queue, hchange]
    | false =>
      refine ⟨l', ?_, ?_, hsame.rebuilding, hsame.rebuilds⟩
      · simpa [History.changesOnly, hchange] using hrun'
      · simp [Loop.arrive, hsame.queue, hchange]
  | @take h l _ signal rest _ hqueue htake ih =>
    obtain ⟨l', hrun', hsame⟩ := ih
    obtain ⟨hidle, signal', rest', hqueue', rfl⟩ := Loop.take?_eq_some_iff.mp htake
    obtain ⟨rfl, rfl⟩ := List.cons.inj (hqueue.symm.trans hqueue')
    have hqueues := hsame.queue
    rw [hqueue] at hqueues
    cases hchange : signal.isChange with
    | true =>
      rw [List.filter_cons_of_pos hchange] at hqueues
      have htake' : l'.take? scope = some _ := Loop.take?_eq_some_iff.mpr
        ⟨hsame.rebuilding.trans hidle, signal, _, hqueues, rfl⟩
      refine ⟨{ l' with
        queue := rest.filter Signal.isChange
        burst := some (l'.burst.getD false || scope.isRelevant signal) }, ?_,
        ⟨rfl, hsame.rebuilding, hsame.rebuilds⟩⟩
      simpa [History.changesOnly, hchange] using hrun'.take hqueues htake'
    | false =>
      rw [List.filter_cons_of_neg (by simp [hchange])] at hqueues
      refine ⟨l', ?_, ⟨hqueues, hsame.rebuilding, hsame.rebuilds⟩⟩
      simpa [History.changesOnly, hchange] using hrun'
  | @expire h l _ hrun hexpire ih =>
    obtain ⟨l', hrun', hsame⟩ := ih
    obtain ⟨hidle, relevant, hburst, rfl⟩ := Loop.expire?_eq_some_iff.mp hexpire
    have hrelevant : (h.atHand.filter Signal.isChange).any scope.isRelevant = relevant := by
      have hflagged := hrun.accounted.flagged
      rw [hburst] at hflagged
      split at hflagged
      · cases hflagged
      · rw [any_isRelevant_filter]
        exact (Option.some.inj hflagged).symm
    have hflagged' : l'.burst = if h.atHand.filter Signal.isChange = [] then none
        else some ((h.atHand.filter Signal.isChange).any scope.isRelevant) :=
      hrun'.accounted.flagged
    by_cases hnone : h.atHand.filter Signal.isChange = []
    · -- The burst told of no change, so that it never began.
      rw [hnone, List.any_nil] at hrelevant
      subst hrelevant
      refine ⟨l', ?_, ⟨hsame.queue, hsame.rebuilding.trans hidle, hsame.rebuilds⟩⟩
      simpa [History.changesOnly, hnone] using hrun'
    · rw [if_neg hnone, hrelevant] at hflagged'
      have hexpire' := Loop.expire?_eq_some_iff.mpr
        ⟨hsame.rebuilding.trans hidle, relevant, hflagged', rfl⟩
      refine ⟨{ l' with burst := none, rebuilding := relevant, rebuilds := _ }, ?_,
        ⟨hsame.queue, rfl, congrArg (· + relevant.toNat) hsame.rebuilds⟩⟩
      simpa [History.changesOnly, hnone] using hrun'.expire hexpire'
  | succeed _ hfinish ih | fail _ hfinish ih =>
    obtain ⟨l', hrun', hsame⟩ := ih
    obtain ⟨hbusy, rfl⟩ := Loop.finish?_eq_some_iff.mp hfinish
    have hfinish' := Loop.finish?_eq_some_iff.mpr ⟨hsame.rebuilding.trans hbusy, rfl⟩
    exact ⟨{ l' with rebuilding := false }, hrun'.finish hfinish' _,
      ⟨hsame.queue, rfl, hsame.rebuilds⟩⟩

/-! ## What the loop does by itself -/

/-- A rebuild that is running can end. -/
theorem Run.exists_idle (hrun : Run scope h l) :
    ∃ h' l', Run scope h' l' ∧ h'.arrived = h.arrived ∧ l'.queue = l.queue ∧ l'.burst = l.burst ∧
      l'.rebuilding = false := by
  cases hbusy : l.rebuilding with
  | false => exact ⟨h, l, hrun, rfl, rfl, rfl, hbusy⟩
  | true =>
    have hfinish := Loop.finish?_eq_some_iff.mpr ⟨hbusy, rfl⟩
    exact ⟨_, _, hrun.succeed hfinish, rfl, rfl, rfl, rfl⟩

/-- The signals that wait can all be taken. -/
theorem Run.exists_drained {h : History} {l : Loop} (hrun : Run scope h l)
    (hidle : l.rebuilding = false) :
    ∃ h' l', Run scope h' l' ∧ h'.arrived = h.arrived ∧ l'.queue = [] ∧ l'.rebuilding = false := by
  generalize hqueue : l.queue = queue
  induction queue generalizing h l with
  | nil => exact ⟨h, l, hrun, rfl, hqueue, hidle⟩
  | cons signal rest ih =>
    have htake : l.take? scope = some _ :=
      Loop.take?_eq_some_iff.mpr ⟨hidle, signal, rest, hqueue, rfl⟩
    obtain ⟨h', l', hrun', harrived, hrest⟩ := ih (hrun.take hqueue htake) hidle rfl
    exact ⟨h', l', hrun', harrived, hrest⟩

/-- With no further signal the loop comes to rest: nothing waits and no rebuild runs. -/
theorem Run.exists_rest (hrun : Run scope h l) :
    ∃ h' l', Run scope h' l' ∧ h'.arrived = h.arrived ∧
      l'.queue = [] ∧ l'.burst = none ∧ l'.rebuilding = false := by
  obtain ⟨h₁, l₁, hrun₁, harrived₁, -, -, hidle₁⟩ := hrun.exists_idle
  obtain ⟨h₂, l₂, hrun₂, harrived₂, hqueue₂, hidle₂⟩ := hrun₁.exists_drained hidle₁
  cases hburst : l₂.burst with
  | none => exact ⟨h₂, l₂, hrun₂, harrived₂.trans harrived₁, hqueue₂, hburst, hidle₂⟩
  | some relevant =>
    have hexpire := Loop.expire?_eq_some_iff.mpr ⟨hidle₂, relevant, hburst, rfl⟩
    obtain ⟨h₃, l₃, hrun₃, harrived₃, hqueue₃, hburst₃, hidle₃⟩ :=
      (hrun₂.expire hexpire).exists_idle
    exact ⟨h₃, l₃, hrun₃, harrived₃.trans (harrived₂.trans harrived₁), hqueue₃.trans hqueue₂,
      hburst₃, hidle₃⟩

/-! ## No change is lost -/

/-- **No change is lost.** The states of the loop are those of its runs, and in every run:
* a relevant signal that arrived still waits, or is in the burst at hand, which is then
  marked, or a rebuild was started since it was taken;
* a burst starts one rebuild if a signal of it was relevant and none otherwise, and no
  other rebuilds are started, so that there are no more than relevant signals;
* rebuilds that end in another way leave the same state, and so do signals that tell of no
  change, had they not arrived;
* with no further signal the loop comes to rest. -/
theorem no_change_lost (scope : Scope) :
    (∀ l, Loop.Reachable scope l ↔ ∃ h, Run scope h l) ∧
    ∀ h l, Run scope h l →
      (∀ sooner signal later, h.arrived = sooner ++ signal :: later →
        scope.isRelevant signal = true → Kept h l signal later) ∧
      (∀ b ∈ h.past, b.rebuilds = (b.signals.any scope.isRelevant).toNat) ∧
      l.rebuilds = (h.past.map Burst.rebuilds).sum ∧
      l.rebuilds ≤ h.arrived.countP scope.isRelevant ∧
      (∀ ends, ends.length = h.ends.length → Run scope { h with ends := ends } l) ∧
      (∃ l', Run scope h.changesOnly l' ∧ SameBesides l l' ∧
        (l'.burst = some true ↔ l.burst = some true)) ∧
      ∃ h' l', Run scope h' l' ∧ h'.arrived = h.arrived ∧
        l'.queue = [] ∧ l'.burst = none ∧ l'.rebuilding = false := by
  refine ⟨fun l => reachable_iff, fun h l hrun => ?_⟩
  have ha := hrun.accounted
  refine ⟨fun _ _ _ harrived hrelevant => ha.kept harrived hrelevant, ha.answered, ha.counted,
    ha.rebuilds_le, fun _ hlength => hrun.with_ends hlength, ?_, hrun.exists_rest⟩
  obtain ⟨l', hrun', hsame⟩ := hrun.changesOnly
  refine ⟨l', hrun', hsame, ?_⟩
  rw [ha.burst_eq_some_true_iff, hrun'.accounted.burst_eq_some_true_iff]
  exact iff_of_eq (congrArg (· = true) (any_isRelevant_filter scope h.atHand))

/-- A change that arrives during a rebuild which then fails, with an error behind it, is
kept for the next burst. -/
theorem no_change_lost_behind_failure :
    let scope : Scope := ⟨⟨"/p"⟩, [⟨"/p/out.js"⟩]⟩
    let first : Signal := .change .modify [⟨"/p/a.js"⟩]
    let written : Signal := .change .modify [⟨"/p/out.js"⟩]
    let second : Signal := .change .create [⟨"/p/b.js"⟩]
    let broken : Signal := .problem "overflow"
    let h : History :=
      { arrived := [first, written, second, broken], past := [⟨[first], 1⟩],
        atHand := [written, second], ends := [false] }
    let l : Loop := { queue := [broken], burst := some true, rebuilds := 1 }
    Run scope h l ∧ scope.isRelevant first = true ∧ scope.isRelevant written = false ∧
      scope.isRelevant second = true ∧ Kept h l first [written, second, broken] ∧
      Kept h l second [broken] ∧ l.rebuilds ≤ h.arrived.countP scope.isRelevant := by
  intro scope first written second broken h l
  have hfirst : scope.isRelevant first = true := by decide +kernel
  have hwritten : scope.isRelevant written = false := by decide +kernel
  have hsecond : scope.isRelevant second = true := by decide +kernel
  have hrun : Run scope h l := by
    have hburst : Run scope { arrived := [first], atHand := [first] } { burst := some true } :=
      (Run.start.arrive first).take rfl (by simp [Loop.take?, Loop.arrive, hfirst])
    have hbusy := ((hburst.expire rfl).arrive written).arrive second
    have hbehind := (hbusy.fail rfl).take rfl (by simp [Loop.take?, Loop.arrive, hwritten]; rfl)
    exact (hbehind.arrive broken).take rfl (by simp [Loop.take?, Loop.arrive, hsecond]; rfl)
  obtain ⟨hkept, -, -, hcount, -⟩ := (no_change_lost scope).2 h l hrun
  exact ⟨hrun, hfirst, hwritten, hsecond, hkept [] first _ rfl hfirst,
    hkept [first, written] second _ rfl hsecond, hcount⟩

end ModuleBundler.Watch
