/-
A backend that answers from a list.

The first request gets the first reply and so on, the last reply serves all further requests,
and without any reply every request is answered with an empty body.  A reply says how its body
is framed, which decides what is announced about it and whether all of it arrives.
-/
import FrontDoor.Backend.Outcome

namespace FrontDoor.Backend

open Http

/-- How a reply is put on the wire. -/
inductive Framing
  /-- Its length is announced. -/
  | length
  /-- It comes in chunks. -/
  | chunked
  /-- It ends with the connection. -/
  | close
  /-- Ten octets more are announced than come. -/
  | truncated
  /-- What comes is no answer. -/
  | garbage
  /-- The connection ends without an answer. -/
  | drop
  /-- No answer comes. -/
  | hang
  deriving DecidableEq, Repr

/-- A reply. -/
structure Reply where
  status : Status := .ok
  headers : Headers := []
  body : Bytes := []
  framing : Framing := .length
  deriving DecidableEq, Repr

/-- The announced length of a body. -/
def lengthField (n : Nat) : Header :=
  ⟨"content-length", Bytes.ofString (toString n)⟩

/-- What comes of a request that is given this reply. -/
def Reply.outcome (r : Reply) : Outcome :=
  match r.framing with
  | .length =>
    .answered
      { status := r.status, headers := r.headers ++ [lengthField r.body.length],
        payload := { octets := r.body } }
  | .chunked =>
    .answered
      { status := r.status,
        headers := r.headers ++ [⟨"transfer-encoding", Bytes.ofString "chunked"⟩],
        payload := { octets := r.body, sized := false } }
  | .close =>
    .answered
      { status := r.status, headers := r.headers, payload := { octets := r.body, sized := false } }
  | .truncated =>
    .answered
      { status := r.status, headers := r.headers ++ [lengthField (r.body.length + 10)],
        payload := { octets := r.body, complete := false } }
  | .garbage | .drop => .failed .exchange
  | .hang => .silent

/-- An answer of this status to this method has no body, whatever is announced. -/
def isBodiless (method : Method) (status : Status) : Bool :=
  method = .head || status.code == 204 || status.code == 304

/-- What comes of a request of the method that is given this reply. -/
def Reply.outcomeFor (r : Reply) (method : Method) : Outcome :=
  match r.outcome with
  | .answered response =>
    if isBodiless method response.status then .answered { response with payload := {} }
    else .answered response
  | other => other

/-- The reply at a position; the last one stands for all behind it. -/
def replyAt (replies : List Reply) (n : Nat) : Reply :=
  (replies[n]?.orElse fun _ => replies.getLast?).getD {}

/-- The backend that gives these replies in order. -/
def scripted (replies : List Reply) : Backend :=
  fun earlier request => (replyAt replies earlier.length).outcomeFor request.method

end FrontDoor.Backend
