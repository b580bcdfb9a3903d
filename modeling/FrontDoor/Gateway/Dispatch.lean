/-
From a request to its response.

A request is logged, its route is chosen by method and path, and the route's stages run on a new
exchange.  A request without a route is forbidden.  When a stage fails, or none answers, the log
says so and the client gets the fault's response.
-/
import FrontDoor.Stages.Authorize
import FrontDoor.Stages.Forward
import FrontDoor.Stages.Fixed

namespace FrontDoor

open Http

namespace Pipeline

/-- The response that a run of handlers ends in, logged when it is a fault's. -/
def settle (names : List String) (r : Run Scene Response Fault) : Response × Scene :=
  match r.ending with
  | .responded response => (response, r.state)
  | .failed stage fault =>
    (fault.response,
      r.state.log .error "Handler stage failed" [("stage", stage), ("error", fault.message)])
  | .exhausted =>
    (Fault.noAnswer.response,
      r.state.log .error "Handler chain ended without a response"
        [("stages", Text.quotedList names)])

/-- Run handlers and settle on a response. -/
def handle (handlers : List Handler) (backend : Backend) (s : Scene) : Response × Scene :=
  settle (names handlers) (run backend s handlers)

end Pipeline

/-- Which stage serves each family of endpoints. -/
abbrev Capabilities := Route.Family → Handler

namespace Capabilities

/-- Every family is served by one stage. -/
def uniform (handler : Handler) : Capabilities :=
  fun _ => handler

/-- Every family is forwarded to the backend. -/
def passThrough : Capabilities :=
  uniform Forward.handler

/-- Every family is only looked at, under its own name. -/
def inspecting : Capabilities :=
  fun family => Fixed.inspect family.name

end Capabilities

/-- The table of the Git routes, guarded where they have to be. -/
def gitRoutes (capabilities : Capabilities) : Route.Table Handler :=
  Route.gitTable Authorize.handler capabilities

/-- A gateway: its routes and how it asks the backend. -/
structure Gateway where
  table : Route.Table Handler
  link : Link

namespace Gateway

/-- The name under which requests without a route are counted. -/
def noRoute : String := "none"

/-- The scene in which a request is handled, its arrival logged. -/
def arrival (g : Gateway) (tree : Disk.Tree) (request : Request) : Scene :=
  let s : Scene := { exchange := { request, link := g.link }, tree }
  s.log .info "Request" [("method", request.method.token), ("uri", request.uri.text)]

/-- The response to a request and the scene it leaves. -/
def dispatch (g : Gateway) (backend : Backend) (tree : Disk.Tree) (request : Request) :
    Response × Scene :=
  let s := g.arrival tree request
  match g.table.select? request.method request.uri.shownPath with
  | none =>
    (.plain .forbidden "Forbidden", s.count [.requests noRoute request.method.token])
  | some route =>
    let s := s.count [.requests route.name request.method.token]
    let s := s.log .debug "Route matched" [("route", route.name)]
    Pipeline.handle route.stages backend s

end Gateway

end FrontDoor
