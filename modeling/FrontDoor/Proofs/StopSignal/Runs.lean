/-
What can happen to a stop signal.

`Acts` says once what each action gives and leaves, and `Runs` is a run of actions with what each
gave; what is proved of all actions and all runs is proved from the two.  Here it is that
listeners come by subscribing, in the order of their numbers, and that one that has gone does not
come back (`Lasts`).
-/
import FrontDoor.StopSignal

namespace FrontDoor.StopSignal

/-- An action and what it gave. -/
abbrev Event := Action × Answer

/-- The first trigger that the listener has not seen, if it is there. -/
def next? (s : StopSignal) (r : Nat) : Option Nat :=
  s.listeners[r]?.join

/-- The listener is there. -/
def listens (s : StopSignal) (r : Nat) : Bool :=
  (s.next? r).isSome

variable {s t u : StopSignal} {r q next : Nat} {a : Action} {b : Answer} {events : List Event}

/-- The listeners of the earlier signal still have their numbers, and one that was gone stays
gone. -/
structure Lasts (s t : StopSignal) : Prop where
  length : s.listeners.length ≤ t.listeners.length
  listens : ∀ r, r < s.listeners.length → t.listens r = true → s.listens r = true

theorem Lasts.refl (s : StopSignal) : Lasts s s :=
  ⟨Nat.le_refl _, fun _ _ h => h⟩

theorem Lasts.trans (h : Lasts s t) (h' : Lasts t u) : Lasts s u where
  length := Nat.le_trans h.length h'.length
  listens r hr hu := h.listens r hr (h'.listens r (Nat.lt_of_lt_of_le hr h.length) hu)

end FrontDoor.StopSignal
