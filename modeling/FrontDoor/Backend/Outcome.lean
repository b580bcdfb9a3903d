/-
What may come of sending a request to the backend.

A backend is any rule that says, from the requests it was sent before and the request it is sent
now, what comes of it: no answer over the network, no answer in time, or an answer with a body
that may be cut short.  Nothing else about backends is assumed.
-/
import FrontDoor.Fault

namespace FrontDoor

open Http

/-- What comes of one request. -/
inductive Outcome
  | failed (failure : SendFailure)
  /-- No answer begins within the time limit. -/
  | silent
  | answered (response : Response)
  deriving DecidableEq, Repr

/-- What comes of a request after the earlier ones. -/
abbrev Backend := List Request → Request → Outcome

namespace Backend

/-- A backend that nobody can connect to. -/
def unreachable : Backend :=
  fun _ _ => .failed .connect

/-- The backend once it was sent some requests. -/
def after (backend : Backend) (earlier : List Request) : Backend :=
  fun requests request => backend (earlier ++ requests) request

end Backend

/-- A request sent to the backend and what came of it. -/
structure Delivery where
  request : Request
  outcome : Outcome
  deriving DecidableEq, Repr

namespace Delivery

/-- The request got through to the backend. -/
def arrived (d : Delivery) : Bool :=
  match d.outcome with
  | .failed .connect => false
  | _ => true

/-- The request line as the backend reads it. -/
def line (d : Delivery) : String :=
  d.request.method.token ++ " " ++ d.request.uri.shownPath ++ d.request.uri.queryText ++
    " HTTP/1.1"

/-- The authority of a URI without user information. -/
def bareAuthority (uri : Uri) : String :=
  String.ofList (Authority.afterLast '@' (uri.authority?.getD "").toList)

/-- The fields as the backend reads them: the host of the URI stands in for a missing one, and a
body that nothing announces is announced by its length. -/
def fields (d : Delivery) : Headers :=
  let hosted :=
    d.request.headers.setIfMissing "host" (Bytes.ofString (bareAuthority d.request.uri))
  if d.request.body.isEmpty || hosted.has "transfer-encoding" then hosted
  else hosted.setIfMissing "content-length" (Bytes.ofString (toString d.request.body.length))

end Delivery

end FrontDoor
