/-
When the stage behind a guard is called.

A dispatched request opens a scene, and the stages of its route are called from there.  `entrance?`
is the scene in which the last of them is called: the stage that serves the request and may read
its body.  It is read off the visits of the run, so it is there whether or not that stage then
answers, and `dispatch_of_entrance` says that the response is what the stage makes of it.

For a guarded endpoint the stage in front of it is the guard's, so the main result,
`entered_iff_approved`, comes from what was said of that stage alone: it passes on exactly when
there is an approval.
-/
import FrontDoor.Proofs.Disk.Resolve
import FrontDoor.Proofs.Pipeline
import FrontDoor.Proofs.Route.Git
import FrontDoor.Proofs.Stages.Authorize

namespace FrontDoor

open Http
open Route (Endpoint Guard)
open Authorize (Approval)

namespace Gateway

variable {g : Gateway} {backend : Backend} {tree : Disk.Tree} {request : Request}

/-- The gateway of the Git routes. -/
def git (caps : Capabilities) (link : Link) : Gateway := ⟨gitRoutes caps, link⟩

/-! ### From the request to its stages -/

/-- The scene in which the first stage of a route is called. -/
def opening (g : Gateway) (tree : Disk.Tree) (request : Request) (route : String) : Scene :=
  ((g.arrival tree request).count [.requests route request.method.token]).log .debug
    "Route matched" [("route", route)]

/-- The scene in which the last stage of the request's route is called, if it is called. -/
def entrance? (g : Gateway) (backend : Backend) (tree : Disk.Tree) (request : Request) :
    Option Scene :=
  (g.table.select? request.method request.uri.shownPath).bind fun route =>
    (Pipeline.visits backend (g.opening tree request route.name)
      route.stages)[route.stages.length - 1]?

theorem dispatch_of_select {route : Route Handler}
    (h : g.table.select? request.method request.uri.shownPath = some route) :
    g.dispatch backend tree request =
      Pipeline.handle route.stages backend (g.opening tree request route.name) := by
  unfold dispatch
  rw [h]
  rfl

/-- From the entrance on, the response is made by the last stage. -/
theorem dispatch_of_entrance {route : Route Handler} {serve : Handler} {scene : Scene}
    (h : g.table.select? request.method request.uri.shownPath = some route)
    (hlast : route.stages.getLast? = some serve)
    (hentrance : g.entrance? backend tree request = some scene) :
    g.dispatch backend tree request =
      Pipeline.settle (Pipeline.names route.stages) (Pipeline.run backend scene [serve]) := by
  unfold entrance? at hentrance
  rw [h, Option.bind_some] at hentrance
  have hleft : route.stages.drop (route.stages.length - 1) = [serve] := by
    obtain ⟨before, hstages⟩ := List.getLast?_eq_some_iff.mp hlast
    simp [hstages]
  rw [dispatch_of_select h, Pipeline.handle, Pipeline.run_of_visit hentrance, hleft]
  rfl

/-! ### Guarded endpoints -/

section Guarded

variable {caps : Capabilities} {e : Endpoint} {guard : Guard}

theorem stages_of_guard (hguard : e.guard? = some guard) :
    (e.route Authorize.handler caps).stages = [Authorize.handler guard, caps e.family] := by
  simp [Endpoint.route, Endpoint.stages, hguard]

/-- An endpoint without a guard goes straight to its family. -/
theorem stages_of_unguarded (hguard : e.guard? = none) :
    (e.route Authorize.handler caps).stages = [caps e.family] := by
  simp [Endpoint.route, Endpoint.stages, hguard]

/-- The stage behind a guard is called exactly when the guard's stage passes on. -/
theorem entrance?_eq_some_iff
    (hroute : g.table.select? request.method request.uri.shownPath =
      some (e.route Authorize.handler caps))
    (hguard : e.guard? = some guard) {scene : Scene} :
    g.entrance? backend tree request = some scene ↔
      Authorize.call guard backend (g.opening tree request e.name) = (.next, scene) := by
  unfold entrance?
  rw [hroute, Option.bind_some, stages_of_guard hguard]
  show (Pipeline.visits backend (g.opening tree request e.name)
    [Authorize.handler guard, caps e.family])[0 + 1]? = some scene ↔ _
  rw [Pipeline.getElem?_visits_succ]
  constructor
  · intro hgiven
    obtain ⟨u, hcall, hvisit⟩ := hgiven
    rw [Pipeline.getElem?_visits_zero] at hvisit
    obtain rfl := Option.some.inj hvisit
    exact hcall
  · intro hcall
    exact ⟨scene, hcall, Pipeline.getElem?_visits_zero⟩

theorem entrance?_eq_none
    (hroute : g.table.select? request.method request.uri.shownPath =
      some (e.route Authorize.handler caps))
    (hguard : e.guard? = some guard)
    (h : (Authorize.call guard backend (g.opening tree request e.name)).1 ≠ .next) :
    g.entrance? backend tree request = none := by
  rw [Option.eq_none_iff_forall_ne_some]
  intro scene hscene
  rw [(entrance?_eq_some_iff hroute hguard).mp hscene] at h
  exact h rfl

/-- An answer of the guard's stage is the response. -/
theorem dispatch_of_respond
    (hroute : g.table.select? request.method request.uri.shownPath =
      some (e.route Authorize.handler caps))
    (hguard : e.guard? = some guard) {response : Response} {scene : Scene}
    (h : Authorize.call guard backend (g.opening tree request e.name) =
      (.respond response, scene)) :
    g.dispatch backend tree request = (response, scene) := by
  rw [dispatch_of_select hroute, Pipeline.handle, stages_of_guard hguard,
    Pipeline.run_cons_of_respond h]
  rfl

/-- A fault of the guard's stage is logged and its response is the response. -/
theorem dispatch_of_fail
    (hroute : g.table.select? request.method request.uri.shownPath =
      some (e.route Authorize.handler caps))
    (hguard : e.guard? = some guard) {fault : Fault} {scene : Scene}
    (h : Authorize.call guard backend (g.opening tree request e.name) = (.fail fault, scene)) :
    g.dispatch backend tree request =
      (fault.response,
        scene.log .error "Handler stage failed"
          [("stage", Authorize.stageName guard), ("error", fault.message)]) := by
  rw [dispatch_of_select hroute, Pipeline.handle, stages_of_guard hguard,
    Pipeline.run_cons_of_fail h]
  rfl

/-- **The stage behind a guard is called exactly when the backend approved the request.**  It is
called with the client's request as it came, its body included, and with the grant of the
backend's answer, and all that was sent is the question whether to approve. -/
theorem entered_iff_approved (caps : Capabilities) (link : Link) (backend : Backend)
    (tree : Disk.Tree) (request : Request)
    (hroute : (gitRoutes caps).select? request.method request.uri.shownPath =
      some (e.route Authorize.handler caps))
    (hguard : e.guard? = some guard) :
    (((git caps link).entrance? backend tree request).isSome ↔
      ∃ a : Approval, a.Holds guard (backend []) link.delegation request tree) ∧
    ∀ scene, (git caps link).entrance? backend tree request = some scene →
      (∃ a : Approval, a.Holds guard (backend []) link.delegation request tree ∧
        scene.exchange = { request, link, grant := a.grant } ∧
        scene.trace.deliveries = [⟨a.request, .answered a.response⟩] ∧ a.request.body = []) ∧
      (git caps link).dispatch backend tree request =
        Pipeline.settle (Pipeline.names (e.stages Authorize.handler caps))
          (Pipeline.run backend scene [caps e.family]) := by
  have hentered : ∀ scene,
      (git caps link).entrance? backend tree request = some scene ↔
        ∃ a : Approval, a.Holds guard (backend []) link.delegation request tree ∧
          scene = a.scene guard
            ((git caps link).opening tree request e.name) := by
    intro scene
    rw [entrance?_eq_some_iff hroute hguard]
    exact Authorize.call_eq_next_iff
  refine ⟨?_, ?_⟩
  · rw [Option.isSome_iff_exists]
    constructor
    · intro hgiven
      obtain ⟨scene, hscene⟩ := hgiven
      obtain ⟨a, ha, -⟩ := (hentered scene).mp hscene
      exact ⟨a, ha⟩
    · intro hgiven
      obtain ⟨a, ha⟩ := hgiven
      exact ⟨_, (hentered _).mpr ⟨a, ha, rfl⟩⟩
  · intro scene hscene
    have hlast : (e.route Authorize.handler caps).stages.getLast? = some (caps e.family) := by
      rw [stages_of_guard hguard]
      rfl
    have hdispatch := dispatch_of_entrance hroute hlast hscene
    refine ⟨?_, hdispatch⟩
    obtain ⟨a, ha, rfl⟩ := (hentered scene).mp hscene
    exact ⟨a, ha, a.exchange_scene, a.deliveries_scene, Delegation.body_of_request ha.asked⟩

/-- A push that the backend approves reaches the stage that serves it. -/
theorem entered_iff_approved_push :
    ((git .passThrough ⟨⟨"http://auth", "1"⟩, .ofSeconds 1⟩).entrance?
      (fun _ _ => .answered
        { payload := { octets := Bytes.ofString "[null,\"/r\"]" } })
      (Disk.Tree.plant {} ["r", "objects"] (.directory 0o755))
      { method := .post, uri := { path := "/p.git/git-receive-pack" },
        body := Bytes.ofString "0000" }).isSome = true := by
  have husable : Authorize.Usable .repository
      (Disk.Tree.plant {} ["r", "objects"] (.directory 0o755)) "/r" :=
    Repository.probe_eq_true_iff.mpr ⟨0o755, Disk.Tree.stat_eq_ok_iff.mpr
      ⟨rfl, _, Disk.Tree.walk_of_directories (by decide) (by decide), rfl⟩⟩
  refine (entered_iff_approved (e := .receivePack) .passThrough _ _ _ _ rfl rfl).1.mpr
    ⟨{ request :=
         { method := .post
           uri :=
             { scheme? := some "http", authority? := some "auth"
               path := "/p.git/git-receive-pack" }
           headers := [⟨"gitlab-workhorse", Bytes.ofString "1"⟩] }
       response := { payload := { octets := Bytes.ofString "[null,\"/r\"]" } }
       grant := { repoPath := some "/r" }
       path := "/r" }, ?_⟩
  exact
    { asked := by rfl
      answered := rfl
      status := rfl
      complete := rfl
      size := by decide
      decoded := by rfl
      provided := rfl
      usable := husable }

end Guarded

end Gateway

end FrontDoor
