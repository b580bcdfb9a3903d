/-
What an operator can set, and the values that hold when nothing is said.
-/
namespace FrontDoor

/-- The version of the gateway. -/
def gatewayVersion : String := "0.1.0"

/-- The settings of a gateway. -/
structure Settings where
  /-- The address requests are accepted at. -/
  bindAddress : String := "127.0.0.1:8181"
  /-- The address of the backend, put in front of every delegated URI. -/
  backendUrl : String := "http://localhost:8080"
  /-- How many seconds the backend has for the head of an answer. -/
  timeoutSeconds : Nat := 30
  /-- The version named to the backend. -/
  version : String := gatewayVersion
  /-- The least grave level that is logged. -/
  logLevel : String := "info"
  metricsEnabled : Bool := false
  /-- The address metrics are shown at. -/
  metricsAddress : String := "127.0.0.1:9229"
  deriving DecidableEq, Repr

end FrontDoor
