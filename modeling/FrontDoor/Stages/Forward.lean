/-
Forwarding a request to the backend.

The request goes to the backend with its body, and the backend's answer is the answer to the
client, whatever it is.
-/
import FrontDoor.Exchange
import FrontDoor.Route.Git

namespace FrontDoor.Forward

open Http

/-- Forward the exchange's request. -/
def call (backend : Backend) (s : Scene) : Flow Response Fault × Scene :=
  let (body, s) := s.takeBody
  match s.exchange.link.delegation.request s.exchange.request (some body) "" with
  | .error problem => (.fail (.construction problem), s)
  | .ok request =>
    match s.send backend request with
    | (.error fault, s) => (.fail fault, s)
    | (.ok response, s) =>
      (.respond response,
        s.log .debug "Relaying backend response" [("status", response.status.text)])

/-- The stage that forwards. -/
def handler : Handler where
  name := "proxy_request"
  call := call

end FrontDoor.Forward
