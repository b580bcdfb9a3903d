/-
Why a stage cannot do its work.

A fault has a message for the log and a status for the client.  The client sees the status with
its reason phrase and nothing else of the fault.
-/
import FrontDoor.Delegation
import FrontDoor.Disk.Error
import FrontDoor.Duration
import FrontDoor.Json.Scan

namespace FrontDoor

open Http

/-- Why no answer to a request came over the network. -/
inductive SendFailure
  /-- There is no connection. -/
  | connect
  /-- The connection broke, or what came over it is no answer. -/
  | exchange
  deriving DecidableEq, Repr

def SendFailure.message : SendFailure → String
  | .connect => "client error (Connect)"
  | .exchange => "client error (SendRequest)"

/-- Why a body could not be used. -/
inductive BodyFailure
  | read (failure : ReadFailure)
  /-- A failure of another origin with a text of its own. -/
  | other (message : String)
  deriving DecidableEq, Repr

def BodyFailure.message : BodyFailure → String
  | .read failure => failure.message
  | .other message => message

/-- Why a stage cannot do its work. -/
inductive Fault
  /-- There is no delegated request. -/
  | construction (problem : Delegation.Problem)
  /-- The backend gave no answer. -/
  | unreachable (failure : SendFailure)
  /-- The answer did not begin in time. -/
  | timeout (limit : Duration)
  /-- The answer's body could not be used. -/
  | body (failure : BodyFailure)
  /-- The answer's body says no grant. -/
  | decode (problem : Json.Problem)
  /-- The grant lacks a field. -/
  | missingField (name : String)
  | repositoryNotFound
  | disk (error : Disk.Error)
  /-- No stage answered. -/
  | noAnswer
  deriving DecidableEq, Repr

namespace Fault

/-- The fault as the log shows it. -/
def message : Fault → String
  | construction problem => "failed to construct delegated request: " ++ problem.message
  | unreachable failure => "upstream request failed: " ++ failure.message
  | timeout limit => "upstream request timed out after " ++ limit.text
  | body failure => "failed to read upstream response: " ++ failure.message
  | decode problem => "invalid authorization response: " ++ problem.message
  | missingField name => "authorization response is missing " ++ name
  | repositoryNotFound => "repository not found"
  | disk error => "filesystem error: " ++ error.message
  | noAnswer => "handler chain produced no response"

/-- The status the client sees. -/
def status : Fault → Status
  | repositoryNotFound => .notFound
  | unreachable _ | body _ => .badGateway
  | timeout _ => .gatewayTimeout
  | construction _ | decode _ | missingField _ | disk _ | noAnswer => .internalServerError

/-- The response the client sees: the status and its reason phrase. -/
def response (f : Fault) : Response :=
  .plain f.status (f.status.reason?.getD "Error")

end Fault

end FrontDoor
