/-
A request on its way through the stages.

An exchange is the client's request together with what the stages learn about it: at first
nothing is granted.  A scene is an exchange and the parts of the world that stages act on: the
file system, and a trace of what was sent, logged, counted and looked at.
-/
import FrontDoor.Backend.Outcome
import FrontDoor.Disk.Tree
import FrontDoor.Grant.Document
import FrontDoor.Journal
import FrontDoor.Pipeline

namespace FrontDoor

open Http

/-- How the backend is asked. -/
structure Link where
  delegation : Delegation
  /-- How long an answer may take to begin. -/
  limit : Duration
  deriving DecidableEq, Repr

/-- The link as a log shows it. -/
def Link.debugText (l : Link) : String :=
  "Upstream \x7b backend: " ++ Text.quoted l.delegation.backend ++ ", timeout: " ++
    l.limit.text ++ " \x7d"

/-- A client's request and what is known about it. -/
structure Exchange where
  request : Request
  link : Link
  grant : Grant := {}
  deriving DecidableEq, Repr

namespace Exchange

/-- The exchange without the request's body, and that body. -/
def takeBody (e : Exchange) : Bytes × Exchange :=
  (e.request.body, { e with request := { e.request with body := [] } })

/-- The exchange as a log shows it. -/
def debugText (e : Exchange) : String :=
  "GitRequest \x7b method: " ++ e.request.method.token ++ ", uri: " ++ e.request.uri.text ++
    ", decision: " ++ e.grant.debugText ++ " \x7d"

end Exchange

/-- What a stage that only looks has seen. -/
structure Sighting where
  stage : String
  grant : Grant
  body : Bytes
  deriving DecidableEq, Repr

/-- What the stages have done so far, each list in order. -/
structure Trace where
  deliveries : List Delivery := []
  records : List Record := []
  counts : List Series := []
  sightings : List Sighting := []
  deriving DecidableEq, Repr

/-- The requests sent. -/
def Trace.sent (t : Trace) : List Request :=
  t.deliveries.map (·.request)

/-- An exchange and the world that the stages act on. -/
structure Scene where
  exchange : Exchange
  tree : Disk.Tree := {}
  trace : Trace := {}

namespace Scene

/-- With one more log record. -/
def log (s : Scene) (level : Level) (message : String) (fields : List (String × String) := []) :
    Scene :=
  { s with trace := { s.trace with records := s.trace.records ++ [⟨level, message, fields⟩] } }

/-- With more log records. -/
def logAll (s : Scene) (records : List Record) : Scene :=
  { s with trace := { s.trace with records := s.trace.records ++ records } }

/-- With more counts. -/
def count (s : Scene) (counts : List Series) : Scene :=
  { s with trace := { s.trace with counts := s.trace.counts ++ counts } }

/-- With another grant. -/
def withGrant (s : Scene) (grant : Grant) : Scene :=
  { s with exchange := { s.exchange with grant } }

/-- The body of the request, and the scene without it. -/
def takeBody (s : Scene) : Bytes × Scene :=
  let (body, exchange) := s.exchange.takeBody
  (body, { s with exchange })

/-- Send a request to the backend: its answer, or why there is none. -/
def send (backend : Backend) (s : Scene) (request : Request) : Except Fault Response × Scene :=
  let outcome := backend s.trace.sent request
  let s :=
    { s with trace := { s.trace with deliveries := s.trace.deliveries ++ [⟨request, outcome⟩] } }
  match outcome with
  | .failed failure => (.error (.unreachable failure), s)
  | .silent => (.error (.timeout s.exchange.link.limit), s)
  | .answered response => (.ok response, s)

end Scene

/-- A stage of the gateway. -/
abbrev Handler := Stage Backend Scene Response Fault

end FrontDoor
