/-
The identifier of a request, followed from end to end.

Whatever is sent for a request is put together from the exchange's own, in which the stages replace
the body and nothing else (`Scene.Extends`).  A delegated request carries the client's values of
all but a few names, and the name of identifiers is none of them, so what is sent carries those of
the request that was dispatched: the client's, or the fresh one if the client has none
(`values_of_mem_sent`).

On the way back a response keeps the identifiers it brings along, and if it brings none, it is given
the first of its request.  Only a backend's answer brings any: those that the gateway makes itself
have no field but the type of their text.
-/
import FrontDoor.Gateway.Serve
import FrontDoor.Proofs.Gateway.Ending
import FrontDoor.Proofs.Stages.Grant

namespace FrontDoor

open Http
open Route (Endpoint Guard)

/-! ### What is sent -/

namespace Scene

variable {s t u : Scene} {q : Request}

/-- The request is put together for the exchange of the scene. -/
def Delegates (s : Scene) (q : Request) : Prop :=
  ∃ body? suffix, s.exchange.link.delegation.request s.exchange.request body? suffix = .ok q

/-- The later scene has the request and the link of the earlier one, but for the request's body, and
all that was sent in between is put together for them. -/
structure Extends (s t : Scene) : Prop where
  link : t.exchange.link = s.exchange.link
  request : ∃ body, t.exchange.request = { s.exchange.request with body }
  sent : ∀ q ∈ t.trace.sent, q ∈ s.trace.sent ∨ s.Delegates q

theorem Extends.refl (s : Scene) : s.Extends s :=
  ⟨rfl, ⟨s.exchange.request.body, rfl⟩, fun _ hq => .inl hq⟩

/-- The body of the client's request has no part in a delegated one. -/
theorem Extends.delegates (h : s.Extends t) (hq : t.Delegates q) : s.Delegates q := by
  obtain ⟨body?, suffix, hbuilt⟩ := hq
  obtain ⟨body, hrequest⟩ := h.request
  rw [h.link, hrequest] at hbuilt
  exact ⟨body?, suffix, hbuilt⟩

theorem Extends.trans (h : s.Extends t) (h' : t.Extends u) : s.Extends u := by
  refine ⟨h'.link.trans h.link, ?_, ?_⟩
  · obtain ⟨body, hrequest⟩ := h.request
    obtain ⟨body', hrequest'⟩ := h'.request
    exact ⟨body', by rw [hrequest', hrequest]⟩
  · intro q hq
    rcases h'.sent q hq with hq | hq
    · exact h.sent q hq
    · exact .inr (h.delegates hq)

/-- One request more was sent, and it is put together for the exchange. -/
theorem Extends.of_delivered {outcome : Outcome} (hlink : t.exchange.link = s.exchange.link)
    (hrequest : ∃ body, t.exchange.request = { s.exchange.request with body })
    (hsent : t.trace.deliveries = s.trace.deliveries ++ [⟨q, outcome⟩]) (hq : s.Delegates q) :
    s.Extends t := by
  refine ⟨hlink, hrequest, ?_⟩
  intro p hp
  rw [Trace.sent, hsent, List.map_append] at hp
  rcases List.mem_append.mp hp with hp | hp
  · exact .inl hp
  · obtain rfl := List.mem_singleton.mp hp
    exact .inr hq

end Scene

open Scene (Extends)

/-- What the stage sends is put together for the exchange, of which it keeps all but the body. -/
def Delegating (stage : Handler) : Prop :=
  ∀ (backend : Backend) (s : Scene), s.Extends (stage.call backend s).2

namespace Authorize

theorem extends_consult (suffix : String) (backend : Backend) (s : Scene) :
    s.Extends (consult suffix backend s).2 := by
  have hconsulted := consulted suffix backend s
  generalize consult suffix backend s = result at hconsulted ⊢
  obtain ⟨answer, t⟩ := result
  cases hconsulted with
  | unasked asked => exact .refl _
  | unanswered asked sent silence => exact .of_delivered rfl ⟨_, rfl⟩ rfl ⟨_, _, asked⟩
  | declined asked sent status => exact .of_delivered rfl ⟨_, rfl⟩ rfl ⟨_, _, asked⟩
  | unread asked sent status read => exact .of_delivered rfl ⟨_, rfl⟩ rfl ⟨_, _, asked⟩
  | approved asked sent status read => exact .of_delivered rfl ⟨_, rfl⟩ rfl ⟨_, _, asked⟩

theorem delegating_handler (guard : Guard) : Delegating (handler guard) := by
  intro backend s
  obtain ⟨tree, records, hcall⟩ := exists_call_eq guard backend s
  have hconsult := extends_consult (suffix guard) backend s
  show s.Extends (call guard backend s).2
  rw [hcall]
  exact ⟨hconsult.link, hconsult.request, hconsult.sent⟩

end Authorize

theorem Forward.delegating_handler : Delegating Forward.handler := by
  intro backend s
  have hforwarded := forwarded backend s
  generalize Forward.handler.call backend s = result at hforwarded ⊢
  obtain ⟨flow, t⟩ := result
  cases hforwarded with
  | unbuilt built => exact ⟨rfl, ⟨[], rfl⟩, fun _ hq => .inl hq⟩
  | unanswered built sent silence => exact .of_delivered rfl ⟨[], rfl⟩ rfl ⟨_, _, built⟩
  | relayed built sent => exact .of_delivered rfl ⟨[], rfl⟩ rfl ⟨_, _, built⟩

theorem Pipeline.extends_run {stages : List Handler} (backend : Backend) (s : Scene)
    (h : ∀ stage ∈ stages, Delegating stage) : s.Extends (run backend s stages).state :=
  run_induction (P := fun s _ t => s.Extends t) .refl
    (fun stage hstage s => h stage hstage backend s)
    (fun _ _ _ _ _ hmade hmore => hmade.trans hmore) s

namespace Gateway

variable {link : Link} {backend : Backend} {tree : Disk.Tree} {request : Request}

/-- What is sent for a request is put together from it and the link. -/
theorem delegated_of_mem_sent {q : Request}
    (hq : q ∈ ((git .passThrough link).dispatch backend tree request).2.trace.sent) :
    ∃ body? suffix, link.delegation.request request body? suffix = .ok q := by
  cases hroute : (git .passThrough link).table.select? request.method request.uri.shownPath with
  | none =>
      rw [dispatch_of_noRoute hroute] at hq
      cases hq
  | some route =>
      obtain ⟨e, -, rfl⟩ := Route.exists_fits_of_select? hroute
      rw [dispatch_of_select hroute, Pipeline.handle, Trace.sent, Pipeline.deliveries_settle] at hq
      have hrun := Pipeline.extends_run backend
        ((git .passThrough link).opening tree request e.name)
        (forall_stages Authorize.delegating_handler Forward.delegating_handler e)
      rcases hrun.sent q hq with hq | hq
      · cases hq
      · exact hq

/-! ### The identifiers of a request -/

/-- The identifiers under which a request travels: those it came with, or else the fresh one. -/
def identifiers (fresh : String) (request : Request) : List Bytes :=
  if request.headers.values requestIdField = [] then [Bytes.ofString fresh]
  else request.headers.values requestIdField

/-- The identifier of a request: the first one it came with, or else the fresh one. -/
def identifier (fresh : String) (request : Request) : Bytes :=
  (request.headers.first? requestIdField).getD (Bytes.ofString fresh)

theorem values_identified (fresh : String) (request : Request) :
    (identified fresh request).headers.values requestIdField = identifiers fresh request := by
  show (request.headers.setIfMissing requestIdField (Bytes.ofString fresh)).values
    requestIdField = _
  simp [Headers.values_setIfMissing, identifiers]

theorem first?_identified (fresh : String) (request : Request) :
    (identified fresh request).headers.first? requestIdField =
      some (identifier fresh request) := by
  rw [Headers.first?, values_identified, identifiers, identifier, Headers.first?]
  cases request.headers.values requestIdField <;> rfl

/-- What is sent for a request carries its identifiers. -/
theorem values_of_mem_sent {q : Request}
    (hq : q ∈ ((git .passThrough link).dispatch backend tree request).2.trace.sent) :
    q.headers.values requestIdField = request.headers.values requestIdField := by
  obtain ⟨body?, suffix, hbuilt⟩ := delegated_of_mem_sent hq
  obtain ⟨uri, -, rfl⟩ := Delegation.request_eq_ok_iff.mp hbuilt
  have hversion : requestIdField ≠ Delegation.versionField := by decide
  have hhost : requestIdField ≠ "host" := by decide
  have hbody : requestIdField ∉ Delegation.bodyFields := by decide
  rw [Delegation.values_fields, if_neg hversion, if_neg hhost, if_neg (fun h => hbody h.2)]

/-! ### The identifiers of a response -/

end Gateway

/-- The responses are the same but for the fields of one name. -/
structure Http.Response.SameBut (name : String) (r s : Response) : Prop where
  status : r.status = s.status
  payload : r.payload = s.payload
  headers : ∀ other ≠ name, r.headers.values other = s.headers.values other

theorem Http.Response.values_plain {status : Status} {text name : String}
    (h : name ≠ "content-type") : (Response.plain status text).headers.values name = [] := by
  simp [Response.plain, Headers.values, Ne.symm h]

namespace Gateway

variable {link : Link} {backend : Backend} {tree : Disk.Tree} {request : Request}
variable {response : Response}

theorem correlated_eq {id : Bytes} (h : request.headers.first? requestIdField = some id) :
    correlated request response =
      { response with headers := response.headers.setIfMissing requestIdField id } := by
  rw [correlated, h]

/-- Correlating touches the identifiers only. -/
theorem sameBut_correlated (request : Request) (response : Response) :
    (correlated request response).SameBut requestIdField response := by
  unfold correlated
  split
  · refine ⟨rfl, rfl, ?_⟩
    intro other hother
    rw [Headers.values_setIfMissing, if_neg (fun h => hother h.1)]
  · exact ⟨rfl, rfl, fun _ _ => rfl⟩

/-- Framing touches no field but the length. -/
theorem values_framed {method : Method} {name : String} (h : name ≠ "content-length") :
    (framed method response).headers.values name = response.headers.values name := by
  have hannounced : (announced response).headers.values name = response.headers.values name := by
    unfold announced
    split
    · rw [Headers.values_setIfMissing, if_neg (fun hname => h hname.1)]
    · rfl
  unfold framed
  split
  · rfl
  · dsimp only
    split
    · exact hannounced
    · exact hannounced

/-- The identifiers that the response to a request has before it is correlated: those of the
backend's answer, if the response is one. -/
def brought (g : Gateway) (backend : Backend) (tree : Disk.Tree) (request : Request) :
    List Bytes :=
  match g.ending? backend tree request with
  | some (.responded response) => response.headers.values requestIdField
  | _ => []

theorem values_dispatch (g : Gateway) (backend : Backend) (tree : Disk.Tree)
    (request : Request) :
    (g.dispatch backend tree request).1.headers.values requestIdField =
      g.brought backend tree request := by
  unfold brought
  cases hending : g.ending? backend tree request with
  | none =>
      rw [dispatch_of_noRoute (ending?_eq_none_iff.mp hending)]
      exact Response.values_plain (by decide)
  | some ending =>
      cases ending with
      | responded response => rw [dispatch_of_responded hending]
      | failed stage fault =>
          rw [dispatch_of_fault (fault?_of_ending hending)]
          exact Response.values_plain (by decide)
      | exhausted =>
          rw [dispatch_of_fault (fault?_of_ending hending)]
          exact Response.values_plain (by decide)

/-- **A request's identifier is on all that is sent for it and on its response.**  What is sent
carries the identifiers that the request came with, in order, or the fresh one alone.  The response
has those that the backend's answer brings, if it is such an answer and brings any, and otherwise
the request's identifier; the rest of it is the dispatcher's. -/
theorem identifiers_correlate (link : Link) (fresh : String) (backend : Backend)
    (tree : Disk.Tree) (request : Request) :
    (∀ q ∈ ((git .passThrough link).serve fresh backend tree request).2.trace.sent,
      q.headers.values requestIdField = identifiers fresh request) ∧
    ((git .passThrough link).serve fresh backend tree request).1.headers.values requestIdField =
      (if (git .passThrough link).brought backend tree (identified fresh request) = [] then
        [identifier fresh request]
      else (git .passThrough link).brought backend tree (identified fresh request)) ∧
    (∀ response, (git .passThrough link).ending? backend tree (identified fresh request) =
        some (.responded response) →
      ∃ question,
        ((git .passThrough link).serve fresh backend tree request).2.trace.deliveries.getLast? =
          some ⟨question, .answered response⟩) ∧
    ∃ layered : Response,
      layered.SameBut requestIdField
        ((git .passThrough link).dispatch backend tree (identified fresh request)).1 ∧
      ((git .passThrough link).serve fresh backend tree request).1 =
        framed request.method layered := by
  refine ⟨?_, ?_, fun response => heard_of_responded, _, sameBut_correlated _ _, rfl⟩
  · intro q hq
    rw [← values_identified]
    exact values_of_mem_sent hq
  · have hlength : requestIdField ≠ "content-length" := by decide
    show (framed _ (correlated (identified fresh request)
      ((git .passThrough link).dispatch backend tree (identified fresh request)).1)).headers.values
        requestIdField = _
    rw [values_framed hlength, correlated_eq (first?_identified fresh request),
      Headers.values_setIfMissing, values_dispatch]
    simp

end Gateway

end FrontDoor
