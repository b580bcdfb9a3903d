/-
What a client is told that is not served.

A request without a route is forbidden and nothing else happens.  For a guarded endpoint whose
stage is not entered, the response is the answer of the guard's stage, so `Authorize.Refused` is
all there is to say about it (`dispatch_refused_iff`).  Whatever the endpoint, a response that no
stage made says nothing but the reason phrase of its status (`responded_or_bare`).
-/
import FrontDoor.Proofs.Gateway.Entrance
import FrontDoor.Proofs.Stages.Refusal

namespace FrontDoor

open Http
open Route (Endpoint Guard)
open Authorize (Refused)

/-- The response says nothing but the reason phrase of its status. -/
def Http.Response.Bare (response : Response) : Prop :=
  ∃ phrase, response.status.reason? = some phrase ∧ response = .plain response.status phrase

theorem Fault.bare_response (fault : Fault) : fault.response.Bare := by
  cases fault <;> exact ⟨_, rfl, rfl⟩

namespace Gateway

variable {g : Gateway} {backend : Backend} {tree : Disk.Tree} {request : Request}

/-! ### Without a route -/

theorem dispatch_of_noRoute (h : g.table.select? request.method request.uri.shownPath = none) :
    g.dispatch backend tree request =
      (.plain .forbidden "Forbidden",
        (g.arrival tree request).count [.requests noRoute request.method.token]) := by
  unfold dispatch
  rw [h]

/-! ### Responses that no stage made -/

/-- The response is that of the stage which the run ended with, or a bare one. -/
theorem responded_or_bare (g : Gateway) (backend : Backend) (tree : Disk.Tree)
    (request : Request) :
    (g.dispatch backend tree request).1.Bare ∨
      ∃ route, g.table.select? request.method request.uri.shownPath = some route ∧
        (Pipeline.run backend (g.opening tree request route.name) route.stages).ending =
          .responded (g.dispatch backend tree request).1 := by
  cases hroute : g.table.select? request.method request.uri.shownPath with
  | none =>
      rw [dispatch_of_noRoute hroute]
      exact .inl ⟨"Forbidden", rfl, rfl⟩
  | some route =>
      rw [dispatch_of_select hroute, Pipeline.handle, Pipeline.settle]
      cases hending :
        (Pipeline.run backend (g.opening tree request route.name) route.stages).ending with
      | responded response => exact .inr ⟨route, rfl, hending⟩
      | failed stage fault => exact .inl fault.bare_response
      | exhausted => exact .inl Fault.noAnswer.bare_response

/-! ### Guarded endpoints -/

section Guarded

variable {caps : Capabilities} {e : Endpoint} {guard : Guard}

/-- What the guard's stage answers is the response, and what it sent is all that was sent. -/
theorem dispatch_of_answer?
    (hroute : g.table.select? request.method request.uri.shownPath =
      some (e.route Authorize.handler caps))
    (hguard : e.guard? = some guard) {response : Response}
    (h : (Authorize.call guard backend (g.opening tree request e.name)).1.answer? =
      some response) :
    (g.dispatch backend tree request).1 = response ∧
      (g.dispatch backend tree request).2.trace.sent =
        (Authorize.call guard backend (g.opening tree request e.name)).2.trace.sent := by
  rcases hcall : Authorize.call guard backend (g.opening tree request e.name) with
    ⟨_ | answer | fault, scene⟩
  · rw [hcall] at h
    cases h
  · rw [hcall] at h
    cases h
    rw [dispatch_of_respond hroute hguard hcall]
    exact ⟨rfl, rfl⟩
  · rw [hcall] at h
    cases h
    rw [dispatch_of_fail hroute hguard hcall]
    exact ⟨rfl, rfl⟩

theorem entrance?_eq_none_iff
    (hroute : g.table.select? request.method request.uri.shownPath =
      some (e.route Authorize.handler caps))
    (hguard : e.guard? = some guard) :
    g.entrance? backend tree request = none ↔
      ∃ response, (Authorize.call guard backend (g.opening tree request e.name)).1.answer? =
        some response := by
  constructor
  · intro h
    rcases hcall : Authorize.call guard backend (g.opening tree request e.name) with
      ⟨_ | answer | fault, scene⟩
    · rw [(entrance?_eq_some_iff hroute hguard).mpr hcall] at h
      cases h
    · exact ⟨answer, rfl⟩
    · exact ⟨fault.response, rfl⟩
  · intro hgiven
    obtain ⟨response, h⟩ := hgiven
    refine entrance?_eq_none hroute hguard ?_
    intro hnext
    rw [hnext] at h
    cases h

/-- The endpoint is not entered exactly for one of the reasons of its guard, and the reason tells
the response and what was sent. -/
theorem dispatch_refused_iff
    (hroute : g.table.select? request.method request.uri.shownPath =
      some (e.route Authorize.handler caps))
    (hguard : e.guard? = some guard) {response : Response} {sent : List Request} :
    (g.entrance? backend tree request = none ∧ (g.dispatch backend tree request).1 = response ∧
      (g.dispatch backend tree request).2.trace.sent = sent) ↔
      Refused guard (backend []) g.link.delegation request tree response sent := by
  have hstage :
      ((Authorize.call guard backend (g.opening tree request e.name)).1.answer? = some response ∧
        (Authorize.call guard backend (g.opening tree request e.name)).2.trace.sent = sent) ↔
        Refused guard (backend []) g.link.delegation request tree response sent :=
    Authorize.answer?_call_iff guard backend (g.opening tree request e.name)
  rw [← hstage, entrance?_eq_none_iff hroute hguard]
  constructor
  · intro hgiven
    obtain ⟨⟨answer, hanswer⟩, rfl, rfl⟩ := hgiven
    obtain ⟨hresponse, hsent⟩ := dispatch_of_answer? hroute hguard hanswer
    exact ⟨by rw [hanswer, hresponse], hsent.symm⟩
  · intro hgiven
    obtain ⟨hanswer, rfl⟩ := hgiven
    exact ⟨⟨response, hanswer⟩, dispatch_of_answer? hroute hguard hanswer⟩

end Guarded

/-- **What a client is told that is not served.**  Without a route it is forbidden, and neither the
backend nor the file system hears of it.  For a guarded endpoint the first reason not to enter it
decides, and the backend was asked at most once.  Whatever the endpoint, a response that no stage
made says nothing but the reason phrase of its status. -/
theorem told_unless_served (caps : Capabilities) (link : Link) (backend : Backend)
    (tree : Disk.Tree) (request : Request) :
    ((gitRoutes caps).select? request.method request.uri.shownPath = none →
      ((git caps link).dispatch backend tree request).1 = .plain .forbidden "Forbidden" ∧
        ((git caps link).dispatch backend tree request).2.trace.sent = [] ∧
        ((git caps link).dispatch backend tree request).2.tree = tree) ∧
    (∀ (e : Endpoint) (guard : Guard),
      (gitRoutes caps).select? request.method request.uri.shownPath =
        some (e.route Authorize.handler caps) →
      e.guard? = some guard →
      (∀ response sent,
        ((git caps link).entrance? backend tree request = none ∧
          ((git caps link).dispatch backend tree request).1 = response ∧
          ((git caps link).dispatch backend tree request).2.trace.sent = sent) ↔
          Refused guard (backend []) link.delegation request tree response sent) ∧
      ((git caps link).entrance? backend tree request = none →
        ((git caps link).dispatch backend tree request).2.trace.sent.length ≤ 1)) ∧
    (((git caps link).dispatch backend tree request).1.Bare ∨
      ∃ route, (gitRoutes caps).select? request.method request.uri.shownPath = some route ∧
        (Pipeline.run backend ((git caps link).opening tree request route.name)
          route.stages).ending =
            .responded ((git caps link).dispatch backend tree request).1) := by
  refine ⟨?_, ?_, responded_or_bare (git caps link) backend tree request⟩
  · intro hroute
    rw [dispatch_of_noRoute hroute]
    exact ⟨rfl, rfl, rfl⟩
  · intro e guard hroute hguard
    refine ⟨fun response sent => dispatch_refused_iff hroute hguard, ?_⟩
    intro hentrance
    exact Authorize.length_sent_of_refused
      ((dispatch_refused_iff hroute hguard).mp ⟨hentrance, rfl, rfl⟩)

/-- A backend that answers with 204 has not approved, and its answer is the client's. -/
theorem told_unless_served_noContent :
    ((git .passThrough ⟨⟨"http://auth", "1"⟩, .ofSeconds 1⟩).dispatch
      (fun _ _ => .answered { status := ⟨204⟩, headers := [⟨"x", Bytes.ofString "y"⟩] }) {}
      { method := .post, uri := { path := "/p.git/git-receive-pack" } }).1 =
        { status := ⟨204⟩, headers := [⟨"x", Bytes.ofString "y"⟩] } := by
  have hrefused : Refused .repository
      (fun _ => .answered { status := ⟨204⟩, headers := [⟨"x", Bytes.ofString "y"⟩] })
      ⟨"http://auth", "1"⟩ { method := .post, uri := { path := "/p.git/git-receive-pack" } } {}
      { status := ⟨204⟩, headers := [⟨"x", Bytes.ofString "y"⟩] } _ :=
    .declined ⟨rfl, rfl⟩ (by decide)
  obtain ⟨-, hguarded, -⟩ := told_unless_served .passThrough
    ⟨⟨"http://auth", "1"⟩, .ofSeconds 1⟩
    (fun _ _ => .answered { status := ⟨204⟩, headers := [⟨"x", Bytes.ofString "y"⟩] }) {}
    { method := .post, uri := { path := "/p.git/git-receive-pack" } }
  exact (((hguarded .receivePack .repository rfl rfl).1 _ _).mpr hrefused).2.1

end Gateway

end FrontDoor
