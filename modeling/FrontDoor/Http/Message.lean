/-
Requests and responses.

A request holds its whole body.  A response body may end before it should, so it is kept as the
octets that arrived together with whether they are all of it; reading it up to a limit gives the
octets, or the first thing that goes wrong.
-/
import FrontDoor.Http.Header
import FrontDoor.Http.Method
import FrontDoor.Http.Status
import FrontDoor.Http.UriReader

namespace FrontDoor.Http

/-- The protocol version of a request. -/
inductive Version
  | http10
  | http11
  | http2
  deriving DecidableEq, Repr, Inhabited

def Version.text : Version → String
  | .http10 => "HTTP/1.0"
  | .http11 => "HTTP/1.1"
  | .http2 => "HTTP/2.0"

/-- A request. -/
structure Request where
  method : Method := .get
  uri : Uri
  version : Version := .http11
  headers : Headers := []
  body : Bytes := []
  /-- Notes that travel with the request inside the process and never on the wire. -/
  extensions : List String := []
  deriving DecidableEq, Repr

/-- A response body as it arrived. -/
structure Payload where
  octets : Bytes := []
  /-- Nothing is missing. -/
  complete : Bool := true
  /-- How long it is was known before it was read. -/
  sized : Bool := true
  deriving DecidableEq, Repr

/-- Why a body could not be read. -/
inductive ReadFailure
  /-- It is longer than the limit. -/
  | overLimit
  /-- It ended before it should. -/
  | cutShort
  deriving DecidableEq, Repr

def ReadFailure.message : ReadFailure → String
  | .overLimit => "length limit exceeded"
  | .cutShort => "error reading a body from connection"

/-- The whole body, when it is complete and has at most `limit` octets. -/
def Payload.read (limit : Nat) (p : Payload) : Except ReadFailure Bytes :=
  if p.octets.length > limit then .error .overLimit
  else if p.complete then .ok p.octets
  else .error .cutShort

/-- A response. -/
structure Response where
  status : Status := .ok
  headers : Headers := []
  payload : Payload := {}
  deriving DecidableEq, Repr

/-- A response of plain text. -/
def Response.plain (status : Status) (text : String) : Response where
  status := status
  headers := [⟨"content-type", Bytes.ofString "text/plain; charset=utf-8"⟩]
  payload := { octets := Bytes.ofString text }

end FrontDoor.Http
