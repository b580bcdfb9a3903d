/-
What the steps of a scene change and what they leave alone.

A scene changes by logging, counting, sending and granting, one part of it at a time.  Sending is
said here in one equation, `send_eq`: the delivery is kept whatever came of it, and the result is
read off the outcome.  The other lemmas say which parts a step does not touch; they are the ones
asked for when a scene went through several steps.
-/
import FrontDoor.Exchange

namespace FrontDoor

open Http

/-- What the sender learns from an outcome. -/
def Outcome.result (limit : Duration) : Outcome → Except Fault Response
  | .failed failure => .error (.unreachable failure)
  | .silent => .error (.timeout limit)
  | .answered response => .ok response

namespace Scene

variable (s : Scene)

/-- With one more delivery. -/
def deliver (delivery : Delivery) : Scene :=
  { s with trace := { s.trace with deliveries := s.trace.deliveries ++ [delivery] } }

/-- A request that is sent is delivered, whatever comes of it. -/
theorem send_eq (backend : Backend) (request : Request) :
    s.send backend request =
      ((backend s.trace.sent request).result s.exchange.link.limit,
        s.deliver ⟨request, backend s.trace.sent request⟩) := by
  unfold send
  cases backend s.trace.sent request <;> rfl

/-! ### The exchange -/

@[simp] theorem exchange_count (counts : List Series) :
    (s.count counts).exchange = s.exchange := rfl

@[simp] theorem exchange_deliver (delivery : Delivery) :
    (s.deliver delivery).exchange = s.exchange := rfl

@[simp] theorem exchange_withGrant (grant : Grant) :
    (s.withGrant grant).exchange = { s.exchange with grant } := rfl

/-! ### The deliveries -/

@[simp] theorem deliveries_count (counts : List Series) :
    (s.count counts).trace.deliveries = s.trace.deliveries := rfl

@[simp] theorem deliveries_deliver (delivery : Delivery) :
    (s.deliver delivery).trace.deliveries = s.trace.deliveries ++ [delivery] := rfl

@[simp] theorem deliveries_withGrant (grant : Grant) :
    (s.withGrant grant).trace.deliveries = s.trace.deliveries := rfl

end Scene

end FrontDoor
