/-
Stages with a fixed behaviour.

They pass on, fail or answer in one set way, whatever the exchange, and stand in for the stages
of an application where only the order of things matters.
-/
import FrontDoor.Exchange

namespace FrontDoor.Fixed

open Http

/-- Passes on. -/
def pass (name : String) : Handler :=
  ⟨name, fun _ s => (.next, s)⟩

/-- Fails. -/
def fail (name : String) (fault : Fault) : Handler :=
  ⟨name, fun _ s => (.fail fault, s)⟩

/-- Answers. -/
def respond (name : String) (response : Response) : Handler :=
  ⟨name, fun _ s => (.respond response, s)⟩

/-- Grants what a document says and passes on; fails without granting when it says no grant. -/
def decide (name : String) (document : Bytes) : Handler :=
  ⟨name, fun _ s =>
    match Grant.ofDocument document with
    | .ok grant => (.next, s.withGrant grant)
    | .error problem => (.fail (.decode problem), s)⟩

/-- Takes the body and passes on. -/
def drain (name : String) : Handler :=
  ⟨name, fun _ s => (.next, s.takeBody.2)⟩

/-- Takes the body, notes it with the grant, and answers with its own name. -/
def inspect (name : String) : Handler :=
  ⟨name, fun _ s =>
    let (body, s) := s.takeBody
    let seen : Sighting := ⟨name, s.exchange.grant, body⟩
    (.respond (.plain .ok name),
      { s with trace := { s.trace with sightings := s.trace.sightings ++ [seen] } })⟩

end FrontDoor.Fixed
