/-
Until the backend has approved, the client's payload changes nothing.

Two requests that differ in their payload only are dispatched side by side.  `Scene.Alike` relates
the two scenes: all that was done and learned is the same, and what was sent says the same.
Opening a scene makes it hold, and every step up to the guard's decision keeps it, each with the
same result on both sides; so the two runs take the same branches and reach the stage behind the
guard together or not at all.

Nothing is assumed of how the two backends treat requests, except that they answer the two
questions alike.
-/
import FrontDoor.Proofs.Gateway.Entrance

namespace FrontDoor

open Http
open Route (Endpoint Guard)

/-- The two requests sent say the same and had the same outcome. -/
structure Delivery.Alike (d₁ d₂ : Delivery) : Prop where
  request : d₁.request.Alike d₂.request
  outcome : d₁.outcome = d₂.outcome

namespace Scene

/-- The two scenes differ in the payload of the client's request only. -/
structure Alike (s t : Scene) : Prop where
  request : s.exchange.request.SameButPayload t.exchange.request
  link : s.exchange.link = t.exchange.link
  grant : s.exchange.grant = t.exchange.grant
  tree : s.tree = t.tree
  deliveries : List.Forall₂ Delivery.Alike s.trace.deliveries t.trace.deliveries
  records : s.trace.records = t.trace.records
  counts : s.trace.counts = t.trace.counts
  sightings : s.trace.sightings = t.trace.sightings

namespace Alike

variable {s t : Scene}

theorem log (h : s.Alike t) (level : Level) (message : String) (fields) :
    (s.log level message fields).Alike (t.log level message fields) :=
  { h with records := by simp only [Scene.log, h.records] }

theorem logAll (h : s.Alike t) (records : List Record) :
    (s.logAll records).Alike (t.logAll records) :=
  { h with records := by simp only [Scene.logAll, h.records] }

theorem count (h : s.Alike t) (counts : List Series) :
    (s.count counts).Alike (t.count counts) :=
  { h with counts := by simp only [Scene.count, h.counts] }

theorem withGrant (h : s.Alike t) (grant : Grant) :
    (s.withGrant grant).Alike (t.withGrant grant) :=
  { h with grant := rfl }

theorem deliver (h : s.Alike t) {d₁ d₂ : Delivery} (hd : d₁.Alike d₂) :
    (s.deliver d₁).Alike (t.deliver d₂) :=
  { h with deliveries := List.rel_append h.deliveries (.cons hd .nil) }

end Alike

end Scene

namespace Authorize

open Scene (Alike)

variable {s t : Scene} {b₁ b₂ : Backend} {suffix : String} {guard : Guard}

/-! ### The steps of a guard -/

theorem question_alike (h : s.Alike t) (suffix : String) :
    (∃ problem, s.question suffix = .error problem ∧ t.question suffix = .error problem) ∨
    ∃ q₁ q₂, s.question suffix = .ok q₁ ∧ t.question suffix = .ok q₂ ∧ q₁.Alike q₂ := by
  rw [Scene.question, Scene.question, ← h.link]
  exact Delegation.request_of_sameButPayload h.request _ suffix

theorem weigh_alike (h : s.Alike t) (response : Response) :
    (weigh s response).1 = (weigh t response).1 ∧
      (weigh s response).2.Alike (weigh t response).2 := by
  have hcounted := h.count [.authorizations response.status.code, .authorizationTime]
  unfold weigh
  by_cases hstatus : response.status = .ok
  · simp only [if_pos hstatus]
    cases readGrant response.payload with
    | error fault => exact ⟨rfl, hcounted⟩
    | ok grant => exact ⟨rfl, hcounted.withGrant grant⟩
  · simp only [if_neg hstatus]
    refine ⟨trivial, ?_⟩
    have huri : s.exchange.request.uri = t.exchange.request.uri := h.request.uri
    rw [Scene.exchange_count, Scene.exchange_count, huri]
    exact hcounted.log _ _ _

theorem consult_alike (h : s.Alike t)
    (hreply : ∀ q₁ q₂, s.question suffix = .ok q₁ → t.question suffix = .ok q₂ →
      b₁ s.trace.sent q₁ = b₂ t.trace.sent q₂) :
    (consult suffix b₁ s).1 = (consult suffix b₂ t).1 ∧
      (consult suffix b₁ s).2.Alike (consult suffix b₂ t).2 := by
  unfold consult
  rw [← Scene.question, ← Scene.question]
  rcases question_alike h suffix with ⟨problem, h₁, h₂⟩ | ⟨q₁, q₂, h₁, h₂, halike⟩
  · rw [h₁, h₂]
    exact ⟨rfl, h⟩
  · simp only [h₁, h₂, Scene.send_eq, hreply q₁ q₂ h₁ h₂, ← h.link]
    generalize b₂ t.trace.sent q₂ = outcome
    have hdelivered : (s.deliver ⟨q₁, outcome⟩).Alike (t.deliver ⟨q₂, outcome⟩) :=
      h.deliver ⟨halike, rfl⟩
    cases outcome with
    | failed failure => exact ⟨rfl, hdelivered⟩
    | silent => exact ⟨rfl, hdelivered⟩
    | answered response => exact weigh_alike hdelivered response

theorem prepare_alike (guard : Guard) (h : s.Alike t) (path : String) :
    (prepare guard s path).1 = (prepare guard t path).1 ∧
      (prepare guard s path).2.Alike (prepare guard t path).2 := by
  cases guard with
  | repository =>
      simp only [prepare, h.tree]
      exact ⟨trivial, h.logAll _⟩
  | lfsObject =>
      simp only [prepare, h.tree]
      exact ⟨trivial, { h with tree := rfl }⟩
  | artifacts =>
      simp only [prepare, h.tree]
      exact ⟨trivial, { h with tree := rfl }⟩

theorem accept_alike (guard : Guard) (h : s.Alike t) :
    (accept guard s).1 = (accept guard t).1 ∧ (accept guard s).2.Alike (accept guard t).2 :=
  accept_congr h h.grant (prepare_alike guard h)

/-- A guard's stage decides the same in both scenes. -/
theorem call_alike (h : s.Alike t)
    (hreply : ∀ q₁ q₂, s.question (Authorize.suffix guard) = .ok q₁ →
      t.question (Authorize.suffix guard) = .ok q₂ →
      b₁ s.trace.sent q₁ = b₂ t.trace.sent q₂) :
    (call guard b₁ s).1 = (call guard b₂ t).1 ∧
      (call guard b₁ s).2.Alike (call guard b₂ t).2 :=
  call_congr (consult_alike h hreply) fun _ _ => accept_alike guard

end Authorize

namespace Gateway

variable {r₁ r₂ : Request}

theorem opening_alike (g : Gateway) (tree : Disk.Tree) (h : r₁.SameButPayload r₂)
    (route : String) :
    (g.opening tree r₁ route).Alike (g.opening tree r₂ route) where
  request := h
  link := rfl
  grant := rfl
  tree := rfl
  deliveries := .nil
  records := by simp [opening, arrival, Scene.log, Scene.count, h.method, h.uri]
  counts := by simp [opening, arrival, Scene.log, Scene.count, h.method]
  sightings := rfl

/-- **Until the backend has approved, the client's payload changes nothing.**  Two requests to a
guarded endpoint that differ in their payload only, with the same answers to their questions,
either both end at the guard, with the same response and alike scenes, or both reach the stage
behind it, in alike scenes.  Nothing that was sent until then has a body. -/
theorem payload_irrelevant_until_entrance (caps : Capabilities) (link : Link) (b₁ b₂ : Backend)
    (tree : Disk.Tree) {e : Endpoint} {guard : Guard} (hsame : r₁.SameButPayload r₂)
    (hroute : (gitRoutes caps).select? r₁.method r₁.uri.shownPath =
      some (e.route Authorize.handler caps))
    (hguard : e.guard? = some guard)
    (hreply : ∀ q₁ q₂, link.delegation.request r₁ none (Authorize.suffix guard) = .ok q₁ →
      link.delegation.request r₂ none (Authorize.suffix guard) = .ok q₂ → b₁ [] q₁ = b₂ [] q₂) :
    ((git caps link).entrance? b₁ tree r₁ = none ∧ (git caps link).entrance? b₂ tree r₂ = none ∧
      ((git caps link).dispatch b₁ tree r₁).1 = ((git caps link).dispatch b₂ tree r₂).1 ∧
      ((git caps link).dispatch b₁ tree r₁).2.Alike ((git caps link).dispatch b₂ tree r₂).2 ∧
      ∀ q ∈ ((git caps link).dispatch b₁ tree r₁).2.trace.sent, q.body = []) ∨
    ∃ s₁ s₂, (git caps link).entrance? b₁ tree r₁ = some s₁ ∧
      (git caps link).entrance? b₂ tree r₂ = some s₂ ∧ s₁.Alike s₂ ∧
      ∀ q ∈ s₁.trace.sent, q.body = [] := by
  have hroute₂ : (gitRoutes caps).select? r₂.method r₂.uri.shownPath =
      some (e.route Authorize.handler caps) := by
    rw [← hsame.method, ← hsame.uri, hroute]
  have hcall := Authorize.call_alike (opening_alike (git caps link) tree hsame e.name) hreply
  have hbody : ∀ q ∈ (Authorize.call guard b₁
      ((git caps link).opening tree r₁ e.name)).2.trace.sent, q.body = [] := by
    intro q hq
    rcases Authorize.body_of_mem_sent_call hq with hq | hq
    · exact absurd hq List.not_mem_nil
    · exact hq
  rcases h₁ : Authorize.call guard b₁ ((git caps link).opening tree r₁ e.name) with ⟨flow, s₁⟩
  rcases h₂ : Authorize.call guard b₂ ((git caps link).opening tree r₂ e.name) with ⟨flow₂, s₂⟩
  rw [h₁] at hcall hbody
  rw [h₂] at hcall
  obtain ⟨rfl, hscene⟩ := hcall
  cases flow with
  | next =>
      exact .inr ⟨s₁, s₂, (entrance?_eq_some_iff hroute hguard).mpr h₁,
        (entrance?_eq_some_iff hroute₂ hguard).mpr h₂, hscene, hbody⟩
  | respond response =>
      left
      refine ⟨entrance?_eq_none hroute hguard (by rw [h₁]; simp),
        entrance?_eq_none hroute₂ hguard (by rw [h₂]; simp), ?_⟩
      rw [dispatch_of_respond hroute hguard h₁, dispatch_of_respond hroute₂ hguard h₂]
      exact ⟨rfl, hscene, hbody⟩
  | fail fault =>
      left
      refine ⟨entrance?_eq_none hroute hguard (by rw [h₁]; simp),
        entrance?_eq_none hroute₂ hguard (by rw [h₂]; simp), ?_⟩
      rw [dispatch_of_fail hroute hguard h₁, dispatch_of_fail hroute₂ hguard h₂]
      exact ⟨rfl, hscene.log _ _ _, hbody⟩

/-- Two pushes with different payloads, both turned down. -/
theorem payload_irrelevant_until_entrance_push :
    ((git .passThrough ⟨⟨"http://auth", "1"⟩, .ofSeconds 1⟩).dispatch
      (fun _ _ => .answered { status := .forbidden }) {}
      { method := .post, uri := { path := "/p.git/git-receive-pack" }
        headers := [⟨"content-length", Bytes.ofString "4"⟩, ⟨"host", Bytes.ofString "a"⟩]
        body := Bytes.ofString "0000" }).1 =
    ((git .passThrough ⟨⟨"http://auth", "1"⟩, .ofSeconds 1⟩).dispatch
      (fun _ _ => .answered { status := .forbidden }) {}
      { method := .post, uri := { path := "/p.git/git-receive-pack" }
        headers := [⟨"host", Bytes.ofString "a"⟩, ⟨"content-type", Bytes.ofString "b"⟩] }).1 := by
  have hsame : Request.SameButPayload
      { method := .post, uri := { path := "/p.git/git-receive-pack" }
        headers := [⟨"content-length", Bytes.ofString "4"⟩, ⟨"host", Bytes.ofString "a"⟩]
        body := Bytes.ofString "0000" }
      { method := .post, uri := { path := "/p.git/git-receive-pack" }
        headers := [⟨"host", Bytes.ofString "a"⟩, ⟨"content-type", Bytes.ofString "b"⟩] } := by
    refine ⟨rfl, rfl, ?_⟩
    intro name hname
    have htype : name ≠ "content-type" := fun h => hname (by rw [h]; decide)
    have hlength : name ≠ "content-length" := fun h => hname (by rw [h]; decide)
    simp [Headers.values, List.filter_cons, htype.symm, hlength.symm]
  rcases payload_irrelevant_until_entrance (e := .receivePack) .passThrough
      ⟨⟨"http://auth", "1"⟩, .ofSeconds 1⟩ (fun _ _ => .answered { status := .forbidden })
      (fun _ _ => .answered { status := .forbidden }) {} hsame rfl rfl
      (fun _ _ _ _ => rfl) with ⟨-, -, h, -⟩ | ⟨s₁, s₂, h, -⟩
  · exact h
  · have hcall := (entrance?_eq_some_iff (e := .receivePack) rfl rfl).mp h
    cases hcall

end Gateway

end FrontDoor
