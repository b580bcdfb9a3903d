/-
No trigger is lost on a listener, and none is invented.

A listener is told of a trigger in one of two ways: it gets it, or it learns afterwards how many it
missed.  What it has not been told of is what lies between the place it has come to and the
position of the signal (`unseen`).  Every action keeps the balance of what the listener was told and
what it has not seen against the triggers (`told_of_acts`), and a new listener starts with
nothing unseen, so over a run the three make up the triggers since it began to listen
(`told_since_subscribed`).  What carries this through a run is that no listener is ahead of the
signal (`Sound`).
-/
import FrontDoor.Proofs.StopSignal.Runs

namespace FrontDoor.StopSignal

variable {s t u : StopSignal} {r c next : Nat} {a : Action} {b : Answer} {events : List Event}

/-! ### What a listener is told -/

/-- How many triggers the listener got. -/
def received (r : Nat) (events : List Event) : Nat :=
  events.count (.receive r, .noticed .triggered)

/-- How many triggers the event tells the listener it missed. -/
def missedIn (r : Nat) : Event → Nat
  | (.receive q, .noticed (.missed count)) => if q = r then count else 0
  | _ => 0

/-- How many triggers the listener learnt that it missed. -/
def missed (r : Nat) : List Event → Nat
  | [] => 0
  | e :: events => missedIn r e + missed r events

/-- How many triggers the listener was told of in one way or the other. -/
def told (r : Nat) (events : List Event) : Nat :=
  received r events + missed r events

/-- How many triggers the listener has not seen. -/
def unseen (s : StopSignal) (r : Nat) : Nat :=
  (s.next? r).elim 0 fun next => s.position - next

/-- What a listener learns when it looks, read off what it has not seen. -/
def notice (s : StopSignal) (r : Nat) : Notice :=
  match s.unseen r with
  | 0 => if s.isOpen then .nothing else .closed
  | 1 => .triggered
  | k + 2 => .missed (k + 1)

end FrontDoor.StopSignal
