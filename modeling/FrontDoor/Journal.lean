/-
What the gateway leaves behind for its operators: log records and counts.

Records and counts are kept in the order in which they arise.  A count names a series, which is a
metric with its labels, and adds one to it; the sum over a run is read off the list.
-/
namespace FrontDoor

/-- How grave a log record is. -/
inductive Level
  | error
  | warn
  | info
  | debug
  | trace
  deriving DecidableEq, Repr

def Level.text : Level → String
  | .error => "ERROR"
  | .warn => "WARN"
  | .info => "INFO"
  | .debug => "DEBUG"
  | .trace => "TRACE"

/-- The graver, the smaller; the gravest has 1. -/
def Level.rank : Level → Nat
  | .error => 1
  | .warn => 2
  | .info => 3
  | .debug => 4
  | .trace => 5

/-- A log record: a message and named values, already as text. -/
structure Record where
  level : Level
  message : String
  fields : List (String × String) := []
  deriving DecidableEq, Repr

/-- A metric with the values of its labels. -/
inductive Series
  /-- Requests dispatched, by route and method. -/
  | requests (route method : String)
  /-- Answers to authorization requests, by status. -/
  | authorizations (status : Nat)
  /-- How long authorization requests took. -/
  | authorizationTime
  deriving DecidableEq, Repr

namespace Series

/-- The name of the metric. -/
def metric : Series → String
  | requests .. => "git_gateway_requests_total"
  | authorizations _ => "git_gateway_auth_requests_total"
  | authorizationTime => "git_gateway_auth_duration_seconds"

/-- The labels in alphabetical order. -/
def labels : Series → List (String × String)
  | requests route method => [("method", method), ("route", route)]
  | authorizations status => [("status", toString status)]
  | authorizationTime => []

end Series

/-- How often a series was counted. -/
def tally (counts : List Series) (series : Series) : Nat :=
  counts.count series

end FrontDoor
