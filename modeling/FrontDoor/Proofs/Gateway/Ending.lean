/-
How the run of a dispatched request ends.

`ending?` is the end of the run that the request's route makes, and there is none without a route.
The response is told by it alone: an answer is passed on as it is, and of a fault the client gets
what the fault has for clients (`dispatch_of_responded`, `dispatch_of_fault`).

Where every family is forwarded the end is an answer or the fault of a stage.  The stage that
forwards never passes on, so no run is exhausted (`ending?_ne_exhausted`); and neither it nor a
guard has an answer of its own, so whatever is answered came from the backend, in reply to what was
sent last (`heard_of_responded`).
-/
import FrontDoor.Proofs.Gateway.Forwarding
import FrontDoor.Proofs.Gateway.Refusal

namespace FrontDoor

open Http
open Route (Endpoint Guard)

/-- How a run ends with what the stage of that name wants. -/
def Flow.ending {ρ ε : Type} (stage : String) : Flow ρ ε → Ending ρ ε
  | .next => .exhausted
  | .respond answer => .responded answer
  | .fail failure => .failed stage failure

theorem Flow.ending_eq_responded_iff {ρ ε : Type} {stage : String} {flow : Flow ρ ε} {answer : ρ} :
    flow.ending stage = .responded answer ↔ flow = .respond answer := by
  cases flow <;> simp [ending]

/-- The fault that the client is told of, if one is the end. -/
def Ending.fault? {ρ : Type} : Ending ρ Fault → Option Fault
  | .responded _ => none
  | .failed _ fault => some fault
  | .exhausted => some .noAnswer

/-! ### The last call of a run -/

namespace Pipeline

variable {ω σ ρ ε : Type} {w : ω} {s : σ} {stages : Pipeline ω σ ρ ε}

theorem run_singleton (w : ω) (s : σ) (stage : Stage ω σ ρ ε) :
    run w s [stage] =
      ⟨(stage.call w s).1.ending stage.name, (stage.call w s).2, [stage.name]⟩ := by
  rcases h : stage.call w s with ⟨_ | answer | failure, t⟩
  · rw [run_cons_of_next h]
    rfl
  · rw [run_cons_of_respond h]
    rfl
  · rw [run_cons_of_fail h]
    rfl

/-- If not all stages pass on, one call makes the end of the run and the state it leaves. -/
theorem exists_last_call (h : (run w s stages).ending ≠ .exhausted) :
    ∃ stage ∈ stages, ∃ t, (run w s stages).ending = (stage.call w t).1.ending stage.name ∧
      (run w s stages).state = (stage.call w t).2 := by
  rcases passes_or_stops w s stages with ⟨t, hpasses⟩ | ⟨front, stage, behind, t, rfl, hstops⟩
  · exact absurd (ending_of_passes hpasses) h
  · refine ⟨stage, by simp, t, ?_⟩
    rw [run_of_stops hstops, run_append hstops.passes, run_singleton]
    exact ⟨rfl, rfl⟩

/-- A run whose last stage never passes on is not exhausted. -/
theorem ending_ne_exhausted {stage : Stage ω σ ρ ε} (hlast : stage ∈ stages)
    (h : ∀ t, (stage.call w t).1 ≠ .next) : (run w s stages).ending ≠ .exhausted := by
  rcases passes_or_stops w s stages with ⟨t, hpasses⟩ | ⟨front, other, behind, t, rfl, hstops⟩
  · induction hpasses with
    | nil => cases hlast
    | cons call rest ih =>
        rcases List.mem_cons.mp hlast with rfl | hlast
        · exact absurd (congrArg Prod.fst call) (h _)
        · rw [run_cons_of_next call]
          exact ih hlast
  · exact ending_of_stops hstops behind

end Pipeline

/-! ### What the stages answer -/

/-- Whatever the stage answers is what the backend answered to the request sent last. -/
def Relays (stage : Handler) : Prop :=
  ∀ backend s response, (stage.call backend s).1 = .respond response →
    ∃ question, (stage.call backend s).2.trace.deliveries.getLast? =
      some ⟨question, .answered response⟩

namespace Authorize

theorem accept_ne_respond {guard : Guard} {s : Scene} {response : Response} :
    (accept guard s).1 ≠ .respond response := by
  unfold accept
  cases place guard s.exchange.grant with
  | error fault => simp
  | ok path =>
      dsimp only
      rcases prepare guard s path with ⟨fault | _, t⟩ <;> simp

theorem relays_handler (guard : Guard) : Relays (handler guard) := by
  intro backend s response h
  have hconsulted := consulted (suffix guard) backend s
  have hcall : (handler guard).call backend s = call guard backend s := rfl
  rw [hcall, call_eq] at h ⊢
  generalize consult (suffix guard) backend s = result at hconsulted h ⊢
  obtain ⟨answer, t⟩ := result
  cases hconsulted with
  | unasked asked => cases h
  | unanswered asked sent silence => cases h
  | declined asked sent status =>
      cases h
      exact ⟨_, List.getLast?_concat⟩
  | unread asked sent status read => cases h
  | approved asked sent status read => exact absurd h accept_ne_respond

end Authorize

namespace Forward

variable {backend : Backend} {s : Scene}

/-- What forwarding comes to, and the scene it leaves. -/
inductive Forwarded (backend : Backend) (s : Scene) : Flow Response Fault → Scene → Prop
  /-- There is no request to forward. -/
  | unbuilt {problem}
      (built : s.exchange.link.delegation.request s.exchange.request
        (some s.exchange.request.body) "" = .error problem) :
      Forwarded backend s (.fail (.construction problem)) s.takeBody.2
  | unanswered {forwarded outcome fault}
      (built : s.exchange.link.delegation.request s.exchange.request
        (some s.exchange.request.body) "" = .ok forwarded)
      (sent : backend s.trace.sent forwarded = outcome)
      (silence : outcome.result s.exchange.link.limit = .error fault) :
      Forwarded backend s (.fail fault) (s.takeBody.2.deliver ⟨forwarded, outcome⟩)
  | relayed {forwarded response}
      (built : s.exchange.link.delegation.request s.exchange.request
        (some s.exchange.request.body) "" = .ok forwarded)
      (sent : backend s.trace.sent forwarded = .answered response) :
      Forwarded backend s (.respond response)
        ((s.takeBody.2.deliver ⟨forwarded, .answered response⟩).log .debug
          "Relaying backend response" [("status", response.status.text)])

theorem forwarded (backend : Backend) (s : Scene) :
    Forwarded backend s (handler.call backend s).1 (handler.call backend s).2 := by
  show Forwarded backend s (call backend s).1 (call backend s).2
  cases hbuilt : s.exchange.link.delegation.request s.exchange.request
    (some s.exchange.request.body) "" with
  | error problem =>
      have htaken : s.takeBody.2.exchange.link.delegation.request s.takeBody.2.exchange.request
          (some s.takeBody.1) "" = .error problem := hbuilt
      simp only [call, htaken]
      exact .unbuilt hbuilt
  | ok request =>
      rw [call_eq hbuilt, sentScene]
      cases hsent : backend s.trace.sent request with
      | failed failure => exact .unanswered hbuilt hsent rfl
      | silent => exact .unanswered hbuilt hsent rfl
      | answered response => exact .relayed hbuilt hsent

theorem call_ne_next (backend : Backend) (s : Scene) : (handler.call backend s).1 ≠ .next := by
  have hforwarded := forwarded backend s
  intro hnext
  rw [hnext] at hforwarded
  cases hforwarded

theorem relays_handler : Relays handler := by
  intro backend s response h
  have hforwarded := forwarded backend s
  generalize handler.call backend s = result at hforwarded h ⊢
  obtain ⟨flow, t⟩ := result
  cases hforwarded with
  | unbuilt built => cases h
  | unanswered built sent silence => cases h
  | relayed built sent =>
      cases h
      exact ⟨_, List.getLast?_concat⟩

end Forward

namespace Gateway

variable {g : Gateway} {link : Link} {backend : Backend} {tree : Disk.Tree} {request : Request}

/-! ### The end and the response -/

/-- How the run of the request's route ends, if it has a route. -/
def ending? (g : Gateway) (backend : Backend) (tree : Disk.Tree) (request : Request) :
    Option (Ending Response Fault) :=
  (g.table.select? request.method request.uri.shownPath).map fun route =>
    (Pipeline.run backend (g.opening tree request route.name) route.stages).ending

/-- The fault that the response is made from, if it is made from one. -/
def fault? (g : Gateway) (backend : Backend) (tree : Disk.Tree) (request : Request) :
    Option Fault :=
  (g.ending? backend tree request).bind Ending.fault?

theorem ending?_eq_some_iff {ending : Ending Response Fault} :
    g.ending? backend tree request = some ending ↔
      ∃ route, g.table.select? request.method request.uri.shownPath = some route ∧
        (Pipeline.run backend (g.opening tree request route.name) route.stages).ending = ending :=
  Option.map_eq_some_iff

theorem ending?_eq_none_iff :
    g.ending? backend tree request = none ↔
      g.table.select? request.method request.uri.shownPath = none :=
  Option.map_eq_none_iff

theorem fault?_of_ending {ending : Ending Response Fault}
    (h : g.ending? backend tree request = some ending) :
    g.fault? backend tree request = ending.fault? := by
  rw [fault?, h, Option.bind_some]

/-- An answer is the response as it is. -/
theorem dispatch_of_responded {response : Response}
    (h : g.ending? backend tree request = some (.responded response)) :
    (g.dispatch backend tree request).1 = response := by
  obtain ⟨route, hroute, hending⟩ := ending?_eq_some_iff.mp h
  rw [dispatch_of_select hroute, Pipeline.handle, Pipeline.settle, hending]

/-- Of a fault the client gets what the fault has for clients. -/
theorem dispatch_of_fault {fault : Fault}
    (h : g.fault? backend tree request = some fault) :
    (g.dispatch backend tree request).1 = fault.response := by
  obtain ⟨ending, hsome, hfault⟩ := Option.bind_eq_some_iff.mp h
  obtain ⟨route, hroute, rfl⟩ := ending?_eq_some_iff.mp hsome
  rw [dispatch_of_select hroute, Pipeline.handle, Pipeline.settle]
  cases hending : (Pipeline.run backend (g.opening tree request route.name) route.stages).ending with
  | responded response =>
      rw [hending] at hfault
      cases hfault
  | failed stage failure =>
      rw [hending] at hfault
      cases hfault
      rfl
  | exhausted =>
      rw [hending] at hfault
      cases hfault
      rfl

/-! ### Where every family is forwarded -/

/-- What a guard's stage and the stage that forwards have in common, all stages have. -/
theorem forall_stages {P : Handler → Prop} (hguard : ∀ guard, P (Authorize.handler guard))
    (hforward : P Forward.handler) (e : Endpoint) :
    ∀ stage ∈ e.stages Authorize.handler Capabilities.passThrough, P stage := by
  intro stage hstage
  rcases List.mem_append.mp hstage with hstage | hstage
  · obtain ⟨guard, -, rfl⟩ := Option.map_eq_some_iff.mp (Option.mem_toList.mp hstage)
    exact hguard guard
  · obtain rfl := List.mem_singleton.mp hstage
    exact hforward

theorem ending_stages_ne_exhausted (e : Endpoint) (backend : Backend) (s : Scene) :
    (Pipeline.run backend s (e.stages Authorize.handler Capabilities.passThrough)).ending ≠
      .exhausted :=
  Pipeline.ending_ne_exhausted (List.mem_append_right _ (List.mem_singleton.mpr rfl))
    (Forward.call_ne_next backend)

/-- There is always a stage that ends the run. -/
theorem ending?_ne_exhausted :
    (git .passThrough link).ending? backend tree request ≠ some .exhausted := by
  intro h
  obtain ⟨route, hroute, hending⟩ := ending?_eq_some_iff.mp h
  obtain ⟨e, -, rfl⟩ := Route.exists_fits_of_select? hroute
  exact ending_stages_ne_exhausted e backend _ hending

/-- What is answered is the backend's answer to the request sent last. -/
theorem heard_of_responded {response : Response}
    (h : (git .passThrough link).ending? backend tree request = some (.responded response)) :
    ∃ question,
      ((git .passThrough link).dispatch backend tree request).2.trace.deliveries.getLast? =
        some ⟨question, .answered response⟩ := by
  obtain ⟨route, hroute, hending⟩ := ending?_eq_some_iff.mp h
  obtain ⟨e, -, rfl⟩ := Route.exists_fits_of_select? hroute
  rw [dispatch_of_select hroute, Pipeline.handle, Pipeline.deliveries_settle]
  obtain ⟨stage, hstage, t, hlast, hstate⟩ :=
    Pipeline.exists_last_call (ending_stages_ne_exhausted e backend
      ((git .passThrough link).opening tree request e.name))
  have hrelays : Relays stage :=
    forall_stages Authorize.relays_handler Forward.relays_handler e stage hstage
  have hanswers : (stage.call backend t).1 = .respond response :=
    Flow.ending_eq_responded_iff.mp (hlast.symm.trans hending)
  obtain ⟨question, hheard⟩ := hrelays backend t response hanswers
  exact ⟨question, (congrArg (·.trace.deliveries.getLast?) hstate).trans hheard⟩

end Gateway

end FrontDoor
