/-
# ModuleBundler.Watch.Loop -- from signals to rebuilds

Signals wait in a queue. The loop takes them one by one into a burst, and when
none arrives for a while the burst is over: if a signal of it was relevant, one
rebuild starts. Signals may arrive at any time, also during a rebuild; they wait
for the next burst. A rebuild that fails ends like any other.

`Step` lists what can happen in which state, in any order; the functions that it
is made of also run the loop (`settle`).
-/

import ModuleBundler.Watch.Filter

namespace ModuleBundler.Watch

/-- The state of the loop. -/
structure Loop where
  /-- Signals that arrived and were not taken yet, the oldest first. -/
  queue : List Signal := []
  /-- The burst at hand: whether a signal of it was relevant. -/
  burst : Option Bool := none
  /-- Whether a rebuild is running. -/
  rebuilding : Bool := false
  /-- How many rebuilds were started. -/
  rebuilds : Nat := 0
  deriving DecidableEq, Repr

namespace Loop

/-- A signal arrives. -/
def arrive (l : Loop) (signal : Signal) : Loop :=
  { l with queue := l.queue ++ [signal] }

/-- The loop takes the oldest signal into the burst. -/
def take? (scope : Scope) (l : Loop) : Option Loop :=
  match l.rebuilding, l.queue with
  | false, signal :: rest =>
    some { l with queue := rest, burst := some (l.burst.getD false || scope.isRelevant signal) }
  | _, _ => none

/-- The loop waited for a while: the burst is over. A signal that arrives in the
moment in which the wait ends stays for the next burst. -/
def expire? (l : Loop) : Option Loop :=
  match l.rebuilding, l.burst with
  | false, some true => some { l with burst := none, rebuilding := true, rebuilds := l.rebuilds + 1 }
  | false, some false => some { l with burst := none }
  | _, _ => none

/-- The rebuild ends, well or not. -/
def finish? (l : Loop) : Option Loop :=
  if l.rebuilding then some { l with rebuilding := false } else none

/-- What can happen next. -/
inductive Step (scope : Scope) : Loop → Loop → Prop
  | arrive (l : Loop) (signal : Signal) : Step scope l (l.arrive signal)
  | take {l l' : Loop} : l.take? scope = some l' → Step scope l l'
  | expire {l l' : Loop} : l.expire? = some l' → Step scope l l'
  | succeed {l l' : Loop} : l.finish? = some l' → Step scope l l'
  | fail {l l' : Loop} : l.finish? = some l' → Step scope l l'

/-- Takes every signal of the queue; the number bounds the signals. -/
def drain (scope : Scope) : Nat → Loop → Loop
  | 0, l => l
  | n + 1, l =>
    match l.take? scope with
    | some l => drain scope n l
    | none => l

/-- The loop once no more signals arrive: a rebuild runs, or the loop waits again. -/
def settle (scope : Scope) (l : Loop) : Loop :=
  let l := drain scope l.queue.length l
  l.expire?.getD l

end Loop

end ModuleBundler.Watch
