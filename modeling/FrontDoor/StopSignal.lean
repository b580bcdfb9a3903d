/-
Telling every part of the program to stop.

Coordinators share one signal, and listeners wait for it.  The signal keeps one message: a
listener that was told several times before it looked learns how many it missed and then gets
the last one.  Triggers count up a position, and all a listener remembers is the position of the
first trigger that it has not seen.  A trigger that nobody listens to leaves no trace.
-/
namespace FrontDoor

/-- A stop signal with its coordinators and listeners. -/
structure StopSignal where
  /-- How many triggers were heard by somebody. -/
  position : Nat := 0
  /-- The coordinators in order of their making, and whether each is still there. -/
  coordinators : List Bool := [true]
  /-- The listeners in order of their making: the first trigger each has not seen, none when the
  listener is gone. -/
  listeners : List (Option Nat) := []
  deriving DecidableEq, Repr

namespace StopSignal

/-- What a listener learns when it looks. -/
inductive Notice
  /-- The program is to stop. -/
  | triggered
  /-- So many triggers were missed. -/
  | missed (count : Nat)
  /-- Nothing yet. -/
  | nothing
  /-- Nothing any more: every coordinator is gone. -/
  | closed
  deriving DecidableEq, Repr

/-- The coordinator is still there. -/
def hasCoordinator (s : StopSignal) (c : Nat) : Bool :=
  s.coordinators.getD c false

/-- Some coordinator is still there. -/
def isOpen (s : StopSignal) : Bool :=
  s.coordinators.any id

/-- Somebody listens. -/
def isHeard (s : StopSignal) : Bool :=
  s.listeners.any (·.isSome)

/-- A new listener, which sees the triggers from now on: its number and the signal with it. -/
def subscribe (s : StopSignal) : Nat × StopSignal :=
  (s.listeners.length, { s with listeners := s.listeners ++ [some s.position] })

/-- Tell the listeners. -/
def trigger (s : StopSignal) : StopSignal :=
  if s.isHeard then { s with position := s.position + 1 } else s

/-- Another coordinator of the same signal. -/
def clone (s : StopSignal) : Nat × StopSignal :=
  (s.coordinators.length, { s with coordinators := s.coordinators ++ [true] })

/-- Without a coordinator. -/
def drop (s : StopSignal) (c : Nat) : StopSignal :=
  { s with coordinators := s.coordinators.set c false }

/-- Without a listener. -/
def unsubscribe (s : StopSignal) (r : Nat) : StopSignal :=
  { s with listeners := s.listeners.set r none }

/-- What a listener learns that has seen all triggers before `next`, and what it has seen then. -/
def look (s : StopSignal) (next : Nat) : Notice × Nat :=
  if next < s.position then
    if next + 1 = s.position then (.triggered, s.position)
    else (.missed (s.position - 1 - next), s.position - 1)
  else if s.isOpen then (.nothing, next)
  else (.closed, next)

/-- What is done with a signal. -/
inductive Action
  | subscribe (coordinator : Nat)
  | trigger (coordinator : Nat)
  | drop (coordinator : Nat)
  | clone (coordinator : Nat)
  | unsubscribe (listener : Nat)
  | receive (listener : Nat)
  deriving DecidableEq, Repr

/-- What an action gives. -/
inductive Answer
  /-- The number of a new coordinator or listener. -/
  | made (number : Nat)
  | done
  | noticed (notice : Notice)
  deriving DecidableEq, Repr

/-- Carry out an action, unless it names a coordinator or listener that is not there. -/
def act (s : StopSignal) : Action → Option (Answer × StopSignal)
  | .subscribe c =>
    if s.hasCoordinator c then some (.made s.subscribe.1, s.subscribe.2) else none
  | .trigger c => if s.hasCoordinator c then some (.done, s.trigger) else none
  | .drop c => if s.hasCoordinator c then some (.done, s.drop c) else none
  | .clone c => if s.hasCoordinator c then some (.made s.clone.1, s.clone.2) else none
  | .unsubscribe r =>
    match s.listeners[r]?.join with
    | some _ => some (.done, s.unsubscribe r)
    | none => none
  | .receive r =>
    match s.listeners[r]?.join with
    | some next =>
      some (.noticed (s.look next).1,
        { s with listeners := s.listeners.set r (some (s.look next).2) })
    | none => none

/-- Carry out actions in order: what each gave, and the signal at the end. -/
def actAll (s : StopSignal) : List Action → Option (List Answer × StopSignal)
  | [] => some ([], s)
  | action :: actions => do
    let (answer, s) ← s.act action
    let (answers, s) ← s.actAll actions
    return (answer :: answers, s)

end StopSignal

end FrontDoor
