/-
The gateway that settings describe, and the records of its life.
-/
import FrontDoor.Gateway.Serve
import FrontDoor.Settings.Basic

namespace FrontDoor

/-- How the backend is asked, given its address, the version named to it and the time it has. -/
def Link.to? (backend version : String) (limit : Duration) : Except Delegation.Problem Link :=
  (Delegation.to? backend version).map fun delegation => ⟨delegation, limit⟩

namespace Gateway

/-- The gateway that forwards every family, set up as the settings say. -/
def ofSettings? (s : Settings) : Except Delegation.Problem Gateway :=
  (Link.to? s.backendUrl s.version (.ofSeconds s.timeoutSeconds)).map fun link =>
    ⟨gitRoutes .passThrough, link⟩

/-- The record that the gateway now serves at an address. -/
def serving (address backend : String) : Record :=
  ⟨.info, "HTTP server starting", [("address", address), ("auth_backend", backend)]⟩

/-- The record that the gateway serves no more. -/
def served : Record := ⟨.info, "HTTP server stopped", []⟩

end Gateway

end FrontDoor
