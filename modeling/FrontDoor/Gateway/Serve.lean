/-
What surrounds the dispatch of a request.

Every request has an identifier: one that comes without gets a fresh one, which then travels
with it to the backend, and the response carries the request's identifier unless it brings one of
its own.  Last, a response of known length announces it, and the response to a HEAD request loses
its body.  A session serves requests one after the other; the backend and the file system keep
what the earlier ones did to them.
-/
import FrontDoor.Gateway.Dispatch

namespace FrontDoor.Gateway

open Http

/-- The field that carries the identifier of a request. -/
def requestIdField : String := "x-request-id"

/-- The request with an identifier. -/
def identified (fresh : String) (request : Request) : Request :=
  { request with
    headers := request.headers.setIfMissing requestIdField (Bytes.ofString fresh) }

/-- The response with the identifier of its request. -/
def correlated (request : Request) (response : Response) : Response :=
  match request.headers.first? requestIdField with
  | some id => { response with headers := response.headers.setIfMissing requestIdField id }
  | none => response

/-- The response announces its length if that is known. -/
def announced (response : Response) : Response :=
  if response.payload.sized then
    { response with
      headers := response.headers.setIfMissing "content-length"
        (Bytes.ofString (toString response.payload.octets.length)) }
  else response

/-- A response that succeeds. -/
def succeeds (response : Response) : Bool :=
  200 ≤ response.status.code && response.status.code < 300

/-- The response as it leaves for a request of the method. -/
def framed (method : Method) (response : Response) : Response :=
  if method = .connect && succeeds response then { response with payload := {} }
  else
    let response := announced response
    if method = .head then { response with payload := {} } else response

/-- The response to a request as the client gets it, and the scene that is left. -/
def serve (g : Gateway) (fresh : String) (backend : Backend) (tree : Disk.Tree)
    (request : Request) : Response × Scene :=
  let request := identified fresh request
  let (response, scene) := g.dispatch backend tree request
  (framed request.method (correlated request response), scene)

/-- What one request of a session came to. -/
structure Served where
  response : Response
  trace : Trace

/-- Serve requests in order, each with its fresh identifier: what each came to, and the file
system at the end. -/
def session (g : Gateway) (backend : Backend) (tree : Disk.Tree) :
    List (String × Request) → List Served × Disk.Tree
  | [] => ([], tree)
  | (fresh, request) :: requests =>
    let (response, scene) := g.serve fresh backend tree request
    let (served, tree) := g.session (backend.after scene.trace.sent) scene.tree requests
    (⟨response, scene.trace⟩ :: served, tree)

end FrontDoor.Gateway
