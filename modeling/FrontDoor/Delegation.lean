/-
The request sent to the backend on behalf of a client.

A delegated request goes to the backend's address with the client's path and query and a suffix
appended, all three joined as texts and the result read as a URI.  It carries the client's
fields with three changes: a request without a body loses the six fields that describe one, the
host is the client's, and the gateway names its own version.  Nothing else of the client's
request is carried along.
-/
import FrontDoor.Http.Message
import FrontDoor.Text.Quoted

namespace FrontDoor

open Http

/-- Where delegated requests go and under which version name. -/
structure Delegation where
  /-- The text put in front of every delegated URI. -/
  backend : String
  version : String
  deriving DecidableEq, Repr

namespace Delegation

/-- Why an HTTP request cannot be put together from its parts. -/
inductive PartProblem
  | invalidMethod
  | uri (problem : Uri.Problem)
  deriving DecidableEq, Repr

def PartProblem.message : PartProblem → String
  | .invalidMethod => "invalid HTTP method"
  | .uri problem => problem.message

/-- Why there is no delegated request. -/
inductive Problem
  | invalidUri (uri : String) (cause : Uri.Problem)
  | missingAuthority (uri : String)
  | invalidVersion (version : String)
  | build (cause : PartProblem)
  deriving DecidableEq, Repr

def Problem.message : Problem → String
  | .invalidUri uri cause =>
    "invalid delegated request URI " ++ Text.quoted uri ++ ": " ++ cause.message
  | .missingAuthority uri =>
    "delegated request URI " ++ Text.quoted uri ++ " has no scheme or authority"
  | .invalidVersion version =>
    "proxy version " ++ Text.quoted version ++ " is not a valid header value"
  | .build cause => "failed to build delegated request: " ++ cause.message

/-- The delegation to a backend, under a version name that is not empty and whose octets may stand
in a header. -/
def to? (backend version : String) : Except Problem Delegation :=
  if version.isEmpty then .error (.invalidVersion version)
  else if isHeaderValue (Bytes.ofString version) then .ok ⟨backend, version⟩
  else .error (.invalidVersion version)

/-- The field that names the gateway's version. -/
def versionField : String := "gitlab-workhorse"

/-- The fields that describe a body. -/
def bodyFields : List String :=
  ["content-type", "content-encoding", "content-length", "content-disposition",
    "accept-encoding", "transfer-encoding"]

/-- The text of the delegated URI: the backend, the client's path and query, the suffix. -/
def address (d : Delegation) (inbound : Request) (suffix : String) : String :=
  d.backend ++ inbound.uri.target ++ suffix

/-- The host the client asked for: its first host field, else the authority of its URI if that may
stand in a header. -/
def clientHost? (inbound : Request) : Option Bytes :=
  match inbound.headers.first? "host" with
  | some host => some host
  | none => (inbound.uri.authority?.map Bytes.ofString).filter isHeaderValue

/-- The fields of the delegated request. -/
def fields (d : Delegation) (inbound : Request) (body? : Option Bytes) : Headers :=
  let kept :=
    if body?.isNone then inbound.headers.withoutAll bodyFields else inbound.headers
  let hosted :=
    match clientHost? inbound with
    | some host => kept.set "host" host
    | none => kept
  hosted.set versionField (Bytes.ofString d.version)

/-- A complete URI, with scheme and authority, from the text of one. -/
def completeUri (address : String) : Except Problem Uri :=
  match Uri.ofText address with
  | .error cause => .error (.invalidUri address cause)
  | .ok uri =>
    if uri.scheme?.isSome && uri.authority?.isSome then .ok uri
    else .error (.missingAuthority address)

/-- The request for the backend; without a body when `body?` is none. -/
def request (d : Delegation) (inbound : Request) (body? : Option Bytes) (suffix : String) :
    Except Problem Request :=
  (completeUri (d.address inbound suffix)).map fun uri =>
    { method := inbound.method, uri, headers := d.fields inbound body?, body := body?.getD [] }

end Delegation

end FrontDoor
