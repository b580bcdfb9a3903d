/-
Asking the backend before an endpoint is served.

`consult` sends the client's request without its body.  Any answer but 200 is the answer to the
client.  A 200 carries a grant, which replaces what was granted before.  Each guard then asks for
the fields that its endpoints need and looks at or prepares the place on disk that they name.
Whatever goes wrong before the grant is read leaves the exchange as it was.
-/
import FrontDoor.Exchange
import FrontDoor.Disk.MakeDirectory
import FrontDoor.Route.Git
import FrontDoor.Stages.Repository

namespace FrontDoor.Authorize

open Http
open Route (Guard)

/-- The greatest number of octets in the document of a grant. -/
def maxGrantSize : Nat := 1048576

/-- The permissions of directories made for uploads. -/
def privateMode : Nat := 0o700

/-- Read the grant in an answer. -/
def readGrant (payload : Payload) : Except Fault Grant :=
  match payload.read maxGrantSize with
  | .error e => .error (.body (.read e))
  | .ok octets =>
    match Grant.ofDocument octets with
    | .error e => .error (.decode e)
    | .ok grant => .ok grant

/-- What follows from an answer of the backend: it is the client's answer, or its grant is the
exchange's. -/
def weigh (s : Scene) (response : Response) : Except Fault (Option Response) × Scene :=
  let s := s.count [.authorizations response.status.code, .authorizationTime]
  if response.status = .ok then
    match readGrant response.payload with
    | .error fault => (.error fault, s)
    | .ok grant => (.ok none, s.withGrant grant)
  else
    (.ok (some response),
      s.log .info "Authorization backend did not approve request"
        [("status", response.status.text), ("uri", s.exchange.request.uri.text)])

/-- Ask the backend about the exchange: nothing when it approves, its answer when it does not. -/
def consult (suffix : String) (backend : Backend) (s : Scene) :
    Except Fault (Option Response) × Scene :=
  match s.exchange.link.delegation.request s.exchange.request none suffix with
  | .error problem => (.error (.construction problem), s)
  | .ok request =>
    match s.send backend request with
    | (.error fault, s) => (.error fault, s)
    | (.ok response, s) => weigh s response

/-! ### What each guard asks for -/

/-- The name of the guard's stage. -/
def stageName : Guard → String
  | .repository => "repo_pre_authorize"
  | .lfsObject => "lfs_authorize"
  | .artifacts => "artifacts_authorize"

/-- What the guard appends to the client's path and query. -/
def suffix : Guard → String
  | .repository => ""
  | .lfsObject | .artifacts => "/authorize"

/-- The path that the grant has to name for the guard. -/
def place : Guard → Grant → Except Fault String
  | .repository, g => g.repoPath.elim (.error (.missingField "RepoPath")) .ok
  | .lfsObject, g =>
    match g.storeLfsPath, g.lfsOid with
    | none, _ => .error (.missingField "StoreLFSPath")
    | some _, none => .error (.missingField "LfsOid")
    | some path, some _ => .ok path
  | .artifacts, g => g.tempPath.elim (.error (.missingField "TempPath")) .ok

/-- The place is a repository, or is there to put an upload in. -/
def prepare (guard : Guard) (s : Scene) (path : String) : Except Fault Unit × Scene :=
  match guard with
  | .repository =>
    let (found, records) := Repository.probe s.tree path
    (if found then .ok () else .error .repositoryNotFound, s.logAll records)
  | .lfsObject | .artifacts =>
    let (tree, result) := s.tree.makeDirectories privateMode path
    (result.mapError .disk, { s with tree })

/-- Consult the backend, ask for the place the guard needs, and prepare it. -/
def call (guard : Guard) (backend : Backend) (s : Scene) : Flow Response Fault × Scene :=
  match consult (suffix guard) backend s with
  | (.error fault, s) => (.fail fault, s)
  | (.ok (some response), s) => (.respond response, s)
  | (.ok none, s) =>
    match place guard s.exchange.grant with
    | .error fault => (.fail fault, s)
    | .ok path =>
      match prepare guard s path with
      | (.error fault, s) => (.fail fault, s)
      | (.ok (), s) => (.next, s)

/-- The stage of a guard. -/
def handler (guard : Guard) : Handler where
  name := stageName guard
  call := call guard

end FrontDoor.Authorize
