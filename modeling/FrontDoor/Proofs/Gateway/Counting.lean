/-
What is counted over whole runs.

A dispatched request is counted once, under its route and method, before any stage is called.  The
stages add to that what they learn from the backend: a guard's stage counts each answer to what it
sends, by status, and with it the time that the answer took; the stage that forwards counts nothing
(`Accounts`).  So the counts of a dispatch are told by its route and by what came of the
authorization requests in it (`counts_dispatch`), and those of any number of dispatches by adding
up.

Sums are taken over the different series that were counted, as one who reads the metrics takes
them; `total_eq_countP` says that this is the number of counts.

A session is a run in which each request meets what the earlier ones left behind
(`exists_sessionCounts_eq`), so it is counted like any other (`session_conserved`).
-/
import Mathlib
import FrontDoor.Gateway.Serve
import FrontDoor.Proofs.Gateway.Refusal
import FrontDoor.Proofs.Route.Order
import FrontDoor.Proofs.Stages.Grant

namespace FrontDoor

open Http
open Route (Endpoint Guard)

/-- The status of the answer, if there is one. -/
def Outcome.status? : Outcome → Option Status
  | .answered response => some response.status
  | _ => none

/-- What is counted of an authorization request. -/
def Delivery.counted (d : Delivery) : List Series :=
  match d.outcome.status? with
  | some status => [.authorizations status.code, .authorizationTime]
  | none => []

/-- The sum over the series of a kind. -/
def total (counts : List Series) (kind : Series → Bool) : Nat :=
  ((counts.dedup.filter kind).map (tally counts)).sum

theorem total_eq_countP (counts : List Series) (kind : Series → Bool) :
    total counts kind = counts.countP kind :=
  List.sum_map_count_dedup_filter_eq_countP kind counts

/-- The series counts requests under a guarded route. -/
def Series.isGuarded : Series → Bool
  | .requests route _ => Endpoint.all.any fun e => e.guard?.isSome && e.name == route
  | _ => false

/-! ### What the stages count -/

/-- The name is that of a guard's stage. -/
def isGuardName (name : String) : Bool :=
  [.repository, .lfsObject, .artifacts].any fun guard => Authorize.stageName guard == name

/-- What is sent in a call. -/
def sentIn (backend : Backend) (call : Handler × Scene) : List Delivery :=
  (call.1.call backend call.2).2.trace.deliveries.drop call.2.trace.deliveries.length

/-- The authorization requests in a call, which are what a guard's stage sends. -/
def askedIn (backend : Backend) (call : Handler × Scene) : List Delivery :=
  if isGuardName call.1.name then sentIn backend call else []

/-- The stage counts its authorization requests and nothing else. -/
def Accounts (stage : Handler) : Prop :=
  ∀ backend s, (stage.call backend s).2.trace.counts =
    s.trace.counts ++ (askedIn backend (stage, s)).flatMap Delivery.counted

namespace Authorize

variable {guard : Guard} {backend : Backend} {s : Scene}

/-- Asking sends one request at most and counts what comes of it. -/
theorem counts_consult (suffix : String) (backend : Backend) (s : Scene) :
    ∃ made, made.length ≤ 1 ∧
      (consult suffix backend s).2.trace.deliveries = s.trace.deliveries ++ made ∧
      (consult suffix backend s).2.trace.counts =
        s.trace.counts ++ made.flatMap Delivery.counted := by
  have hconsulted := consulted suffix backend s
  generalize consult suffix backend s = result at hconsulted
  obtain ⟨answer, t⟩ := result
  cases hconsulted with
  | unasked asked => exact ⟨[], by simp⟩
  | @unanswered request outcome fault asked sent silence =>
      refine ⟨[⟨request, outcome⟩], Nat.le_refl _, rfl, ?_⟩
      cases outcome with
      | failed failure => exact (List.append_nil _).symm
      | silent => exact (List.append_nil _).symm
      | answered response => cases silence
  | declined asked sent status => exact ⟨[⟨_, .answered _⟩], Nat.le_refl _, rfl, rfl⟩
  | unread asked sent status read => exact ⟨[⟨_, .answered _⟩], Nat.le_refl _, rfl, rfl⟩
  | approved asked sent status read => exact ⟨[⟨_, .answered _⟩], Nat.le_refl _, rfl, rfl⟩

theorem isGuardName_stageName (guard : Guard) : isGuardName (stageName guard) = true := by
  cases guard <;> rfl

theorem askedIn_handler (guard : Guard) (backend : Backend) (s : Scene) :
    (askedIn backend (handler guard, s)).length ≤ 1 ∧
      ((handler guard).call backend s).2.trace.counts =
        s.trace.counts ++ (askedIn backend (handler guard, s)).flatMap Delivery.counted := by
  obtain ⟨made, hlength, hdeliveries, hcounts⟩ := counts_consult (suffix guard) backend s
  obtain ⟨tree, records, hcall⟩ := exists_call_eq guard backend s
  have hasked : askedIn backend (handler guard, s) = made := by
    show (if isGuardName (stageName guard) then
      ((call guard backend s).2.trace.deliveries).drop s.trace.deliveries.length else []) = made
    rw [isGuardName_stageName, if_pos rfl, deliveries_call, hdeliveries, List.drop_left]
  rw [hasked]
  refine ⟨hlength, ?_⟩
  show (call guard backend s).2.trace.counts = _
  rw [hcall]
  exact hcounts

theorem accounts_handler (guard : Guard) : Accounts (handler guard) :=
  fun backend s => (askedIn_handler guard backend s).2

end Authorize

namespace Forward

variable {backend : Backend} {s : Scene}

/-- Forwarding counts nothing. -/
theorem counts_call (backend : Backend) (s : Scene) :
    (handler.call backend s).2.trace.counts = s.trace.counts := by
  show (call backend s).2.trace.counts = s.trace.counts
  obtain ⟨deliveries, records, h⟩ := exists_call_eq backend s
  rw [h]

theorem askedIn_handler (backend : Backend) (s : Scene) : askedIn backend (handler, s) = [] := rfl

theorem accounts_handler : Accounts handler := by
  intro backend s
  rw [counts_call, askedIn_handler, List.flatMap_nil, List.append_nil]

end Forward

/-- A run counts the authorization requests in its calls. -/
theorem Pipeline.counts_run {stages : List Handler} (backend : Backend) (s : Scene)
    (h : ∀ stage ∈ stages, Accounts stage) :
    (run backend s stages).state.trace.counts =
      s.trace.counts ++
        ((calls backend s stages).flatMap (askedIn backend)).flatMap Delivery.counted := by
  refine run_induction (P := fun s made t => t.trace.counts =
    s.trace.counts ++ (made.flatMap (askedIn backend)).flatMap Delivery.counted) ?_ ?_ ?_ s
  · intro s
    simp
  · intro stage hstage s
    rw [List.flatMap_singleton]
    exact h stage hstage backend s
  · intro s made t more u hmade hmore
    rw [hmore, hmade, List.flatMap_append, List.flatMap_append, List.append_assoc]

/-! ### What a dispatch counts -/

namespace Gateway

variable {link : Link} {backend : Backend} {tree : Disk.Tree} {request : Request}

/-- The name of the request's route. -/
def routeName (g : Gateway) (request : Request) : String :=
  (g.table.select? request.method request.uri.shownPath).elim noRoute (·.name)

/-- The authorization requests sent for a request, with what came of them. -/
def asked (g : Gateway) (backend : Backend) (tree : Disk.Tree) (request : Request) :
    List Delivery :=
  (g.table.select? request.method request.uri.shownPath).elim [] fun route =>
    (Pipeline.calls backend (g.opening tree request route.name) route.stages).flatMap
      (askedIn backend)

theorem accounts_of_mem_stages {e : Endpoint} :
    ∀ stage ∈ (e.route Authorize.handler Capabilities.passThrough).stages, Accounts stage := by
  intro stage hstage
  rcases List.mem_append.mp hstage with hguard | hserve
  · obtain ⟨guard, -, rfl⟩ := Option.map_eq_some_iff.mp (Option.mem_toList.mp hguard)
    exact Authorize.accounts_handler guard
  · obtain rfl := List.mem_singleton.mp hserve
    exact Forward.accounts_handler

/-- A dispatch counts its request once, and the authorization requests in it. -/
theorem counts_dispatch (link : Link) (backend : Backend) (tree : Disk.Tree)
    (request : Request) :
    ((git .passThrough link).dispatch backend tree request).2.trace.counts =
      .requests ((git .passThrough link).routeName request) request.method.token ::
        ((git .passThrough link).asked backend tree request).flatMap Delivery.counted := by
  unfold routeName asked
  cases hroute : (git .passThrough link).table.select? request.method request.uri.shownPath with
  | none =>
      rw [dispatch_of_noRoute hroute]
      rfl
  | some route =>
      obtain ⟨e, -, rfl⟩ := Route.exists_fits_of_select? hroute
      rw [dispatch_of_select hroute, Pipeline.handle, Pipeline.counts_settle,
        Pipeline.counts_run _ _ accounts_of_mem_stages]
      rfl

/-- A guard's stage and one that forwards make one authorization request at most. -/
theorem length_asked_guarded (guard : Guard) (backend : Backend) (s : Scene) :
    ((Pipeline.calls backend s [Authorize.handler guard, Forward.handler]).flatMap
      (askedIn backend)).length ≤ 1 := by
  have hguard := (Authorize.askedIn_handler guard backend s).1
  by_cases hnext : ((Authorize.handler guard).call backend s).1 = .next
  · rw [Pipeline.calls_cons_of_next (Prod.ext hnext rfl), Pipeline.calls_singleton,
      List.flatMap_cons, List.flatMap_singleton, Forward.askedIn_handler, List.append_nil]
    exact hguard
  · rw [Pipeline.calls_cons_of_not_next hnext, List.flatMap_singleton]
    exact hguard

/-- There is one authorization request at most, and none unless the route is guarded. -/
theorem length_asked (link : Link) (backend : Backend) (tree : Disk.Tree) (request : Request) :
    ((git .passThrough link).asked backend tree request).length ≤
      if Series.isGuarded (.requests ((git .passThrough link).routeName request)
        request.method.token) then 1 else 0 := by
  unfold routeName asked
  cases hroute : (git .passThrough link).table.select? request.method request.uri.shownPath with
  | none => exact Nat.zero_le _
  | some route =>
      obtain ⟨e, -, rfl⟩ := Route.exists_fits_of_select? hroute
      cases hguard : e.guard? with
      | none =>
          have hstages : (e.route Authorize.handler Capabilities.passThrough).stages =
              [Forward.handler] := stages_of_unguarded hguard
          rw [Option.elim_some, hstages, Pipeline.calls_singleton, List.flatMap_singleton,
            Forward.askedIn_handler]
          exact Nat.zero_le _
      | some guard =>
          have hguarded : Series.isGuarded (.requests e.name request.method.token) = true :=
            List.any_eq_true.mpr ⟨e, Endpoint.mem_all e, by simp [hguard]⟩
          rw [Option.elim_some, Option.elim_some, stages_of_guard hguard]
          show _ ≤ if Series.isGuarded (.requests e.name request.method.token) then 1 else 0
          rw [if_pos hguarded]
          exact length_asked_guarded guard backend _

/-! ### What many dispatches count -/

/-- A request that arrives, and the backend and the file system that it meets. -/
structure Arrival where
  request : Request
  backend : Backend
  tree : Disk.Tree := {}

/-- The counts of requests that are dispatched one after the other. -/
def countsOf (g : Gateway) (arrivals : List Arrival) : List Series :=
  arrivals.flatMap fun a => (g.dispatch a.backend a.tree a.request).2.trace.counts

/-- The authorization requests sent for requests that are dispatched one after the other. -/
def askedFor (g : Gateway) (arrivals : List Arrival) : List Delivery :=
  arrivals.flatMap fun a => g.asked a.backend a.tree a.request

theorem countsOf_cons (link : Link) (a : Arrival) (arrivals : List Arrival) :
    (git .passThrough link).countsOf (a :: arrivals) =
      .requests ((git .passThrough link).routeName a.request) a.request.method.token ::
        (((git .passThrough link).asked a.backend a.tree a.request).flatMap Delivery.counted ++
          (git .passThrough link).countsOf arrivals) := by
  rw [countsOf, List.flatMap_cons, counts_dispatch]
  rfl

theorem countP_counted (kind : Series → Bool) (found : Delivery → Bool)
    (h : ∀ d : Delivery, d.counted.countP kind = if found d then 1 else 0)
    (deliveries : List Delivery) :
    (deliveries.flatMap Delivery.counted).countP kind = deliveries.countP found := by
  induction deliveries with
  | nil => rfl
  | cons d deliveries ih =>
      rw [List.flatMap_cons, List.countP_append, h, ih, List.countP_cons, Nat.add_comm]

/-- What is counted of requests alone is not counted of an authorization request. -/
theorem countP_counted_eq_zero {kind : Series → Bool}
    (hcode : ∀ code, kind (.authorizations code) = false) (htime : kind .authorizationTime = false)
    (d : Delivery) : d.counted.countP kind = 0 := by
  unfold Delivery.counted
  cases d.outcome.status? <;> simp [hcode, htime]

/-- What is counted of requests alone is counted once for each that is of the kind. -/
theorem countP_countsOf_requests (link : Link) (kind : Series → Bool)
    (hcode : ∀ code, kind (.authorizations code) = false) (htime : kind .authorizationTime = false)
    (arrivals : List Arrival) :
    ((git .passThrough link).countsOf arrivals).countP kind =
      arrivals.countP fun a =>
        kind (.requests ((git .passThrough link).routeName a.request) a.request.method.token) := by
  induction arrivals with
  | nil => rfl
  | cons a arrivals ih =>
      have hasked := countP_counted kind (fun _ => false)
        (by simpa using countP_counted_eq_zero hcode htime)
        ((git .passThrough link).asked a.backend a.tree a.request)
      rw [countsOf_cons, List.countP_cons, List.countP_append, hasked, ih, List.countP_cons]
      simp

/-- What is not counted of requests is counted once for each authorization request it is found
in. -/
theorem countP_countsOf_asked (link : Link) (kind : Series → Bool) (found : Delivery → Bool)
    (hrequests : ∀ route method, kind (.requests route method) = false)
    (h : ∀ d : Delivery, d.counted.countP kind = if found d then 1 else 0)
    (arrivals : List Arrival) :
    ((git .passThrough link).countsOf arrivals).countP kind =
      ((git .passThrough link).askedFor arrivals).countP found := by
  induction arrivals with
  | nil => rfl
  | cons a arrivals ih =>
      rw [countsOf_cons, List.countP_cons_of_neg (by simp [hrequests]), List.countP_append,
        countP_counted kind found h, ih, askedFor, askedFor, List.flatMap_cons, List.countP_append]

/-- No more authorization requests are answered than there are requests under guarded routes. -/
theorem countP_askedFor_le (link : Link) (arrivals : List Arrival) :
    ((git .passThrough link).askedFor arrivals).countP (·.outcome.status?.isSome) ≤
      ((git .passThrough link).countsOf arrivals).countP Series.isGuarded := by
  rw [countP_countsOf_requests link Series.isGuarded (fun _ => rfl) rfl]
  induction arrivals with
  | nil => exact Nat.le_refl _
  | cons a arrivals ih =>
      have hasked := length_asked link a.backend a.tree a.request
      have hfirst := List.countP_le_length (p := fun d : Delivery => d.outcome.status?.isSome)
        (l := (git .passThrough link).asked a.backend a.tree a.request)
      rw [askedFor, List.flatMap_cons, List.countP_append, ← askedFor, List.countP_cons]
      omega

/-- Each request is counted. -/
theorem total_requests (link : Link) (arrivals : List Arrival) :
    total ((git .passThrough link).countsOf arrivals)
      (fun s => s.metric = "git_gateway_requests_total") = arrivals.length := by
  rw [total_eq_countP, countP_countsOf_requests link _ (fun _ => rfl) rfl, List.countP_eq_length]
  intro a ha
  rfl

/-- Each request is counted under its route and its method. -/
theorem tally_requests (link : Link) (arrivals : List Arrival) (route method : String) :
    tally ((git .passThrough link).countsOf arrivals) (.requests route method) =
      arrivals.countP fun a =>
        (git .passThrough link).routeName a.request = route ∧ a.request.method.token = method := by
  rw [tally, List.count, countP_countsOf_requests link _ (fun _ => rfl) rfl]
  refine List.countP_congr ?_
  intro a ha
  simp

/-- Each answer to an authorization request is counted. -/
theorem total_authorizations (link : Link) (arrivals : List Arrival) :
    total ((git .passThrough link).countsOf arrivals)
      (fun s => s.metric = "git_gateway_auth_requests_total") =
        ((git .passThrough link).askedFor arrivals).countP (·.outcome.status?.isSome) := by
  rw [total_eq_countP]
  refine countP_countsOf_asked link _ _ (fun _ _ => rfl) ?_ arrivals
  intro d
  unfold Delivery.counted
  cases d.outcome.status? <;> rfl

/-- Each answer to an authorization request is timed. -/
theorem tally_authorizationTime (link : Link) (arrivals : List Arrival) :
    tally ((git .passThrough link).countsOf arrivals) .authorizationTime =
      ((git .passThrough link).askedFor arrivals).countP (·.outcome.status?.isSome) := by
  refine countP_countsOf_asked link _ _ (fun _ _ => rfl) ?_ arrivals
  intro d
  unfold Delivery.counted
  cases d.outcome.status? <;> rfl

theorem tally_authorizations (link : Link) (arrivals : List Arrival) (status : Status) :
    tally ((git .passThrough link).countsOf arrivals) (.authorizations status.code) =
      ((git .passThrough link).askedFor arrivals).countP
        (·.outcome.status? = some status) := by
  refine countP_countsOf_asked link _ _ (fun _ _ => rfl) ?_ arrivals
  intro d
  unfold Delivery.counted
  cases d.outcome.status? with
  | none => simp
  | some found =>
      obtain ⟨code⟩ := status
      obtain ⟨code'⟩ := found
      simp [List.countP_cons]

theorem total_authorizations_le (link : Link) (arrivals : List Arrival) :
    total ((git .passThrough link).countsOf arrivals)
        (fun s => s.metric = "git_gateway_auth_requests_total") ≤
      total ((git .passThrough link).countsOf arrivals) Series.isGuarded := by
  rw [total_authorizations, total_eq_countP]
  exact countP_askedFor_le link arrivals

/-! ### Route names -/

theorem routeName_eq_none_iff (link : Link) (request : Request) :
    (git .passThrough link).routeName request = "none" ↔
      (gitRoutes .passThrough).select? request.method request.uri.shownPath = none := by
  unfold routeName
  show Option.elim ((gitRoutes .passThrough).select? _ _) noRoute _ = "none" ↔ _
  cases hroute : (gitRoutes .passThrough).select? request.method request.uri.shownPath with
  | none => simp [noRoute]
  | some route =>
      obtain ⟨e, -, rfl⟩ := Route.exists_fits_of_select? hroute
      have hname : e.name ≠ "none" := by
        cases e <;> decide
      simpa [Endpoint.route] using hname

theorem routeName_eq_name_iff (link : Link) (request : Request) (e : Endpoint) :
    (git .passThrough link).routeName request = e.name ↔
      (gitRoutes .passThrough).select? request.method request.uri.shownPath =
        some (e.route Authorize.handler Capabilities.passThrough) := by
  unfold routeName
  show Option.elim ((gitRoutes .passThrough).select? _ _) noRoute _ = e.name ↔ _
  cases hroute : (gitRoutes .passThrough).select? request.method request.uri.shownPath with
  | none =>
      have hname : "none" ≠ e.name := by
        cases e <;> decide
      simpa [noRoute] using hname
  | some route =>
      obtain ⟨e', -, rfl⟩ := Route.exists_fits_of_select? hroute
      rw [Option.elim_some, Option.some.injEq]
      constructor
      · intro hname
        rw [Endpoint.name_injective e' (Endpoint.mem_all e') e (Endpoint.mem_all e) hname]
      · intro hsame
        exact congrArg Route.name hsame

/-- **Over whole runs, requests are counted once each, and authorization requests when they are
answered.**  The requests that are dispatched are as many as are counted, each under its method and
the name of its route, which is "none" when it has no route and is forbidden.  The answers to
authorization requests are as many as are counted, by status and by their times, so at most as many
as the requests counted under guarded routes, and forwarding counts nothing. -/
theorem counts_conserved (link : Link) (arrivals : List Arrival) :
    total ((git .passThrough link).countsOf arrivals)
        (fun s => s.metric = "git_gateway_requests_total") = arrivals.length ∧
    (∀ route method, tally ((git .passThrough link).countsOf arrivals) (.requests route method) =
      arrivals.countP fun a =>
        (git .passThrough link).routeName a.request = route ∧ a.request.method.token = method) ∧
    (∀ request e, (git .passThrough link).routeName request = Endpoint.name e ↔
      (gitRoutes .passThrough).select? request.method request.uri.shownPath =
        some (e.route Authorize.handler Capabilities.passThrough)) ∧
    (∀ request, (git .passThrough link).routeName request = "none" ↔
      (gitRoutes .passThrough).select? request.method request.uri.shownPath = none) ∧
    (∀ backend tree request, (git .passThrough link).routeName request = "none" →
      ((git .passThrough link).dispatch backend tree request).1 =
        .plain .forbidden "Forbidden") ∧
    total ((git .passThrough link).countsOf arrivals)
        (fun s => s.metric = "git_gateway_auth_requests_total") =
      tally ((git .passThrough link).countsOf arrivals) .authorizationTime ∧
    tally ((git .passThrough link).countsOf arrivals) .authorizationTime =
      ((git .passThrough link).askedFor arrivals).countP (·.outcome.status?.isSome) ∧
    (∀ status : Status,
      tally ((git .passThrough link).countsOf arrivals) (.authorizations status.code) =
        ((git .passThrough link).askedFor arrivals).countP (·.outcome.status? = some status)) ∧
    total ((git .passThrough link).countsOf arrivals)
        (fun s => s.metric = "git_gateway_auth_requests_total") ≤
      total ((git .passThrough link).countsOf arrivals) Series.isGuarded ∧
    ∀ backend s, (Forward.handler.call backend s).2.trace.counts = s.trace.counts := by
  refine ⟨total_requests link arrivals, tally_requests link arrivals, routeName_eq_name_iff link,
    routeName_eq_none_iff link, ?_, ?_, tally_authorizationTime link arrivals,
    tally_authorizations link arrivals, total_authorizations_le link arrivals,
    Forward.counts_call⟩
  · intro backend tree request hname
    rw [dispatch_of_noRoute ((routeName_eq_none_iff link request).mp hname)]
  · rw [total_authorizations, tally_authorizationTime]

/-! ### What a session counts -/

/-- What is counted of the requests of a session. -/
def sessionCounts (g : Gateway) (backend : Backend) (tree : Disk.Tree)
    (requests : List (String × Request)) : List Series :=
  (g.session backend tree requests).1.flatMap (·.trace.counts)

/-- What a session counts is what its requests count that are dispatched one after the other, each
to the backend and the file system as the earlier ones left them. -/
theorem exists_sessionCounts_eq (g : Gateway) (backend : Backend) (tree : Disk.Tree)
    (requests : List (String × Request)) :
    ∃ arrivals : List Arrival,
      arrivals.map (·.request) = requests.map (fun r => identified r.1 r.2) ∧
      g.sessionCounts backend tree requests = g.countsOf arrivals := by
  induction requests generalizing backend tree with
  | nil => exact ⟨[], rfl, rfl⟩
  | cons first requests ih =>
      obtain ⟨fresh, request⟩ := first
      let scene := (g.serve fresh backend tree request).2
      obtain ⟨arrivals, hrequests, hcounts⟩ := ih (backend.after scene.trace.sent) scene.tree
      refine ⟨⟨identified fresh request, backend, tree⟩ :: arrivals, ?_, ?_⟩
      · rw [List.map_cons, List.map_cons, hrequests]
      · show (g.serve fresh backend tree request).2.trace.counts ++
          g.sessionCounts (backend.after scene.trace.sent) scene.tree requests = _
        rw [hcounts]
        rfl

/-- **A session counts what it serves.**  The requests are counted once each, under their method and
the name of their route, whatever identifiers they are given and whatever the earlier ones did to
the backend and the file system.  Each answer to an authorization request is timed, and there are
no more of these answers than requests under guarded routes. -/
theorem session_conserved (link : Link) (backend : Backend) (tree : Disk.Tree)
    (requests : List (String × Request)) :
    total ((git .passThrough link).sessionCounts backend tree requests)
        (fun s => s.metric = "git_gateway_requests_total") = requests.length ∧
    (∀ route method,
      tally ((git .passThrough link).sessionCounts backend tree requests)
          (.requests route method) =
        requests.countP fun r =>
          (git .passThrough link).routeName r.2 = route ∧ r.2.method.token = method) ∧
    total ((git .passThrough link).sessionCounts backend tree requests)
        (fun s => s.metric = "git_gateway_auth_requests_total") =
      tally ((git .passThrough link).sessionCounts backend tree requests) .authorizationTime ∧
    total ((git .passThrough link).sessionCounts backend tree requests)
        (fun s => s.metric = "git_gateway_auth_requests_total") ≤
      total ((git .passThrough link).sessionCounts backend tree requests) Series.isGuarded := by
  obtain ⟨arrivals, hrequests, hcounts⟩ :=
    exists_sessionCounts_eq (git .passThrough link) backend tree requests
  rw [hcounts]
  refine ⟨?_, ?_, ?_, total_authorizations_le link arrivals⟩
  · have hlength := congrArg List.length hrequests
    rw [List.length_map, List.length_map] at hlength
    rw [total_requests, hlength]
  · intro route method
    have hcount := congrArg (List.countP fun request : Request =>
      (git .passThrough link).routeName request = route ∧ request.method.token = method) hrequests
    rw [List.countP_map, List.countP_map] at hcount
    rw [tally_requests]
    -- An identifier is no part of what a route is chosen by.
    exact hcount
  · rw [total_authorizations, tally_authorizationTime]

end Gateway

end FrontDoor
