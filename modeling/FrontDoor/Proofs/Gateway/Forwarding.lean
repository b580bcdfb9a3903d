/-
What forwarding makes of a request that a guard let through: what it makes of any.

The stage that forwards reads the client's request and the link of the exchange, and of the
backend the outcome of the one request that it sends (`run_handler`).  A guard that passes on has
changed neither request nor link, so the request that is sent behind it and what comes of that are
those of the stage on its own (`forwarded_as_without_guard`).

One thing has to be seen to: that there is a request to forward.  The guard's question was put
together from the same parts, but its address may go on behind that of the forwarded request, and
a text need not be an address because a longer one is.  The paths of guarded endpoints with a
suffix have so many slashes, though, that they end behind the authority, and then it is one
(`forwards_of_asks`).
-/
import FrontDoor.Proofs.Delegation.Address
import FrontDoor.Proofs.Gateway.Entrance
import FrontDoor.Proofs.Http.UriFront
import FrontDoor.Proofs.Pipeline.Append

namespace FrontDoor

open Http
open Route (Endpoint Guard)

/-! ### A request to forward -/

/-- The paths of endpoints whose guard appends something have three slashes. -/
theorem Route.Endpoint.slashes_of_suffix {e : Endpoint} {guard : Guard} {path : String}
    (hguard : e.guard? = some guard) (hsuffix : Authorize.suffix guard ≠ "")
    (h : e.Spelled path) : 3 ≤ path.toList.count '/' := by
  cases e with
  | infoRefs | uploadPack | receivePack | archive | archiveZip | archiveTar | archiveTarGz
  | archiveTarBz2 =>
      cases hguard
      exact absurd rfl hsuffix
  | uploads | lfsFetch | buildsDownload | artifactsFetch | artifactsDelete => cases hguard
  | lfsStore =>
      obtain ⟨q, oid, size, -, -, rfl⟩ := h
      have hfixed : "/gitlab-lfs/objects/".toList.count '/' = 3 := by decide
      simp only [String.toList_append, List.count_append, hfixed]
      omega
  | artifactsUpload =>
      obtain ⟨q, number, -, rfl⟩ := h
      have hfixed : "/ci/api/v1/builds/".toList.count '/' = 5 := by decide
      simp only [String.toList_append, List.count_append, hfixed]
      omega

/-- What is asked for begins with the path that the route was chosen by. -/
theorem Http.Uri.target_of_shownPath {u : Uri} (h : 1 < u.shownPath.toList.length) :
    u.target = u.shownPath ++ u.queryText := by
  have hpath : u.shownPath = u.path := by
    unfold Uri.shownPath at h ⊢
    split
    · rename_i hempty
      rw [if_pos hempty] at h
      simp at h
    · rfl
  have hne : u.path ≠ "" := by
    intro hempty
    rw [hpath, hempty] at h
    simp at h
  rw [hpath, Uri.target, if_neg (by simp [hne])]

namespace Delegation

variable {d : Delegation} {inbound question : Request} {text more : String}

/-- A text with three slashes is a complete URI if it is the front of one. -/
theorem completeUri_front {uri : Uri} (hslashes : 3 ≤ text.toList.count '/')
    (h : completeUri (text ++ more) = .ok uri) : ∃ uri, completeUri text = .ok uri := by
  obtain ⟨hread, hscheme, -⟩ := completeUri_eq_ok h
  obtain ⟨uri, hread, hscheme, hauthority⟩ := Uri.ofText_front hslashes hread hscheme
  exact ⟨uri, completeUri_of_ofText hread hscheme hauthority⟩

/-- Where a guarded endpoint is asked for and there is a question, there is a request to forward
as well. -/
theorem forwards_of_asks {e : Endpoint} {guard : Guard} (hguard : e.guard? = some guard)
    (hspelled : e.Spelled inbound.uri.shownPath)
    (h : d.request inbound none (Authorize.suffix guard) = .ok question) (body : Bytes) :
    ∃ forwarded, d.request inbound (some body) "" = .ok forwarded := by
  obtain ⟨uri, hcomplete, -⟩ := request_eq_ok_iff.mp h
  suffices ∃ uri, completeUri (d.address inbound "") = .ok uri by
    obtain ⟨uri, hcomplete⟩ := this
    exact ⟨_, request_eq_ok_iff.mpr ⟨uri, hcomplete, rfl⟩⟩
  by_cases hsuffix : Authorize.suffix guard = ""
  · rw [hsuffix] at hcomplete
    exact ⟨uri, hcomplete⟩
  · have haddress : d.address inbound (Authorize.suffix guard) =
        d.address inbound "" ++ Authorize.suffix guard := by
      simp [address]
    rw [haddress] at hcomplete
    refine completeUri_front ?_ hcomplete
    have htarget := Uri.target_of_shownPath (Endpoint.length_of_spelled hspelled)
    have hpath := Endpoint.slashes_of_suffix hguard hsuffix hspelled
    simp only [address, htarget, String.toList_append, List.count_append]
    omega

end Delegation

/-! ### The stage that forwards -/

namespace Forward

variable {backend : Backend} {s : Scene} {forwarded : Request}

/-- How a run ends when a request was forwarded last. -/
def ending (limit : Duration) (outcome : Outcome) : Ending Response Fault :=
  match outcome.result limit with
  | .ok response => .responded response
  | .error fault => .failed handler.name fault

/-- The scene once a request was forwarded. -/
def sentScene (backend : Backend) (s : Scene) (forwarded : Request) : Scene :=
  s.takeBody.2.deliver ⟨forwarded, backend s.trace.sent forwarded⟩

theorem call_eq
    (h : s.exchange.link.delegation.request s.exchange.request (some s.exchange.request.body) "" =
      .ok forwarded) :
    call backend s =
      match (backend s.trace.sent forwarded).result s.exchange.link.limit with
      | .error fault => (.fail fault, sentScene backend s forwarded)
      | .ok response =>
        (.respond response,
          (sentScene backend s forwarded).log .debug "Relaying backend response"
            [("status", response.status.text)]) := by
  -- The request is put together from an exchange whose body was taken out, which is not read.
  have hbuilt : s.takeBody.2.exchange.link.delegation.request s.takeBody.2.exchange.request
      (some s.takeBody.1) "" = .ok forwarded := h
  have hsend : s.takeBody.2.send backend forwarded =
      ((backend s.trace.sent forwarded).result s.exchange.link.limit,
        sentScene backend s forwarded) := Scene.send_eq _ backend forwarded
  simp only [call, hbuilt, hsend]
  cases (backend s.trace.sent forwarded).result s.exchange.link.limit <;> rfl

/-- Forwarding sends one request, and what comes of it is how the run ends. -/
theorem run_handler (backend : Backend)
    (h : s.exchange.link.delegation.request s.exchange.request (some s.exchange.request.body) "" =
      .ok forwarded) :
    (Pipeline.run backend s [handler]).ending =
        ending s.exchange.link.limit (backend s.trace.sent forwarded) ∧
      (Pipeline.run backend s [handler]).state.trace.deliveries =
        s.trace.deliveries ++ [⟨forwarded, backend s.trace.sent forwarded⟩] := by
  have hcall : handler.call backend s = _ := call_eq h
  unfold ending
  cases hresult : (backend s.trace.sent forwarded).result s.exchange.link.limit with
  | ok response =>
      rw [hresult] at hcall
      rw [Pipeline.run_cons_of_respond hcall]
      exact ⟨rfl, rfl⟩
  | error fault =>
      rw [hresult] at hcall
      rw [Pipeline.run_cons_of_fail hcall]
      exact ⟨rfl, rfl⟩

end Forward

/-! ### Behind a guard and on its own -/

namespace Gateway

variable {e : Endpoint} {guard : Guard} {scene : Scene}

/-- The exchange of a client's request when no stage has seen it. -/
def fresh (link : Link) (tree : Disk.Tree) (request : Request) : Scene :=
  { exchange := { request, link }, tree }

/-- A guard that passes on has sent its question and left the client's request and the link as
they were; the run goes on from there. -/
theorem run_of_entrance {caps : Capabilities} {link : Link} {backend : Backend} {tree : Disk.Tree}
    {request : Request}
    (hroute : (gitRoutes caps).select? request.method request.uri.shownPath =
      some (e.route Authorize.handler caps))
    (hguard : e.guard? = some guard)
    (hentrance : (git caps link).entrance? backend tree request = some scene) :
    ∃ question grant,
      link.delegation.request request none (Authorize.suffix guard) = .ok question ∧
      scene.exchange = { request, link, grant } ∧
      scene.trace.deliveries = [⟨question, backend [] question⟩] ∧
      Pipeline.run backend ((git caps link).opening tree request e.name)
          (e.stages Authorize.handler caps) =
        { Pipeline.run backend scene [caps e.family] with
          called :=
            Authorize.stageName guard :: (Pipeline.run backend scene [caps e.family]).called } := by
  have hcall := (entrance?_eq_some_iff hroute hguard).mp hentrance
  have hstages : e.stages Authorize.handler caps = [Authorize.handler guard, caps e.family] :=
    stages_of_guard hguard
  obtain ⟨a, ha, rfl⟩ := Authorize.call_eq_next_iff.mp hcall
  refine ⟨a.request, a.grant, ha.asked, a.exchange_scene, ?_, ?_⟩
  · have hanswered : backend [] a.request = .answered a.response := ha.answered
    rw [hanswered]
    exact a.deliveries_scene
  · rw [hstages]
    exact Pipeline.run_cons_of_next hcall

/-- **Behind a guard that passes on, a request is forwarded as it would be without the guard.**
Two requests are sent: the guard's question, which has no body, and then the client's request with
the whole of its body.  The stage that forwards sends the same request on its own, and if the same
comes of it, the run ends in the same way, with the same response. -/
theorem forwarded_as_without_guard (link : Link) (backend : Backend) (tree : Disk.Tree)
    (request : Request)
    (hroute : (gitRoutes .passThrough).select? request.method request.uri.shownPath =
      some (e.route Authorize.handler Capabilities.passThrough))
    (hguard : e.guard? = some guard)
    (hentrance : (git .passThrough link).entrance? backend tree request = some scene) :
    ∃ question forwarded,
      link.delegation.request request none (Authorize.suffix guard) = .ok question ∧
      question.body = [] ∧
      link.delegation.request request (some request.body) "" = .ok forwarded ∧
      forwarded.body = request.body ∧
      ((git .passThrough link).dispatch backend tree request).2.trace.deliveries =
        [⟨question, backend [] question⟩, ⟨forwarded, backend [question] forwarded⟩] ∧
      ∀ (alone : Backend) (elsewhere : Disk.Tree),
        alone [] forwarded = backend [question] forwarded →
        (Pipeline.run alone (fresh link elsewhere request)
            [Forward.handler]).state.trace.deliveries =
          [⟨forwarded, backend [question] forwarded⟩] ∧
        (Pipeline.run backend ((git .passThrough link).opening tree request e.name)
            (e.stages Authorize.handler Capabilities.passThrough)).ending =
          (Pipeline.run alone (fresh link elsewhere request) [Forward.handler]).ending ∧
        ((git .passThrough link).dispatch backend tree request).1 =
          (Pipeline.handle [Forward.handler] alone (fresh link elsewhere request)).1 := by
  have hspelled := (Route.fits_of_select? hroute).2
  obtain ⟨question, grant, hasked, hexchange, hsent, hrun⟩ :=
    run_of_entrance hroute hguard hentrance
  obtain ⟨forwarded, hforwarded⟩ :=
    Delegation.forwards_of_asks hguard hspelled hasked request.body
  have hbody : forwarded.body = request.body := by
    obtain ⟨uri, -, rfl⟩ := Delegation.request_eq_ok_iff.mp hforwarded
    rfl
  have hbehind : scene.exchange.link.delegation.request scene.exchange.request
      (some scene.exchange.request.body) "" = .ok forwarded := by
    rw [hexchange]
    exact hforwarded
  obtain ⟨hending, hdeliveries⟩ := Forward.run_handler backend hbehind
  rw [hexchange, Trace.sent, hsent] at hending
  rw [Trace.sent, hsent] at hdeliveries
  have hdispatch : (git .passThrough link).dispatch backend tree request =
      Pipeline.settle (Pipeline.names (e.stages Authorize.handler Capabilities.passThrough))
        (Pipeline.run backend ((git .passThrough link).opening tree request e.name)
          (e.stages Authorize.handler Capabilities.passThrough)) :=
    dispatch_of_select (g := git .passThrough link) hroute
  refine ⟨question, forwarded, hasked, Delegation.body_of_request hasked, hforwarded, hbody, ?_, ?_⟩
  · rw [hdispatch, Pipeline.deliveries_settle, hrun]
    exact hdeliveries
  · intro alone elsewhere hsame
    obtain ⟨hending', hdeliveries'⟩ :=
      Forward.run_handler alone (s := fresh link elsewhere request) hforwarded
    have hends : (Pipeline.run backend ((git .passThrough link).opening tree request e.name)
        (e.stages Authorize.handler Capabilities.passThrough)).ending =
          (Pipeline.run alone (fresh link elsewhere request) [Forward.handler]).ending := by
      rw [hrun, hending']
      exact hending.trans (congrArg (Forward.ending link.limit) hsame.symm)
    refine ⟨?_, hends, ?_⟩
    · rw [hdeliveries', ← hsame]
      rfl
    · rw [hdispatch]
      exact Pipeline.settle_response hends

/-- An upload of artifacts that the backend approves: the body is in the second request only. -/
theorem forwarded_as_without_guard_upload :
    ((git .passThrough ⟨⟨"http://b", "1"⟩, .ofSeconds 1⟩).dispatch
      (fun _ _ => .answered
        { payload := { octets := Bytes.ofString "\x7b\"TempPath\":\"/t\"\x7d" } })
      {}
      { method := .post, uri := { path := "/ci/api/v1/builds/7/artifacts" },
        body := Bytes.ofString "PK" }).2.trace.deliveries.map (·.request.body) =
      [[], Bytes.ofString "PK"] := by
  have husable : Authorize.Usable .artifacts {} "/t" := by
    show (Disk.Tree.makeDirectories {} Authorize.privateMode "/t").2 = .ok ()
    cbv
  obtain ⟨question, forwarded, -, hquestion, -, hforwarded, hdeliveries, -⟩ :=
    forwarded_as_without_guard (e := .artifactsUpload) ⟨⟨"http://b", "1"⟩, .ofSeconds 1⟩
      (fun _ _ => .answered
        { payload := { octets := Bytes.ofString "\x7b\"TempPath\":\"/t\"\x7d" } })
      {}
      { method := .post, uri := { path := "/ci/api/v1/builds/7/artifacts" },
        body := Bytes.ofString "PK" }
      rfl rfl
      ((entrance?_eq_some_iff rfl rfl).mpr (Authorize.call_eq_next_iff.mpr
        ⟨{ request :=
             { method := .post
               uri :=
                 { scheme? := some "http", authority? := some "b"
                   path := "/ci/api/v1/builds/7/artifacts/authorize" }
               headers := [⟨"gitlab-workhorse", Bytes.ofString "1"⟩] }
           response :=
             { payload := { octets := Bytes.ofString "\x7b\"TempPath\":\"/t\"\x7d" } }
           grant := { tempPath := some "/t" }
           path := "/t" },
          { asked := by rfl
            answered := rfl
            status := rfl
            complete := rfl
            size := by decide
            decoded := by decide +kernel
            provided := by rfl
            usable := husable }, rfl⟩))
  rw [hdeliveries, List.map_cons, List.map_cons, List.map_nil, hquestion, hforwarded]

end Gateway

end FrontDoor
