/-
What the log has of a request.

A dispatched request is logged when it arrives, before its route is known, and once more if the
client gets the response of a fault.  What the stages log between the two is minor: they tell of
answers and of what they found on disk, never of an arrival or an error (`LogsMinor`).  A step of a
stage adds such records behind those that are there (`Scene.Notes`), so a run does, and which
records are errors is settled by how the run ends.
-/
import FrontDoor.Proofs.Gateway.Ending

namespace FrontDoor

open Http
open Route (Guard)

/-- The record tells neither of an error nor of the arrival of a request, nor of a run that was
exhausted. -/
structure Record.IsMinor (r : Record) : Prop where
  level : r.level ≠ .error
  arrival : r.message ≠ "Request"
  exhaustion : r.message ≠ "Handler chain ended without a response"

theorem Record.isMinor_mk {level : Level} {message : String} {fields : List (String × String)}
    (hlevel : level ≠ .error) (harrival : message ≠ "Request")
    (hexhaustion : message ≠ "Handler chain ended without a response") :
    (⟨level, message, fields⟩ : Record).IsMinor :=
  ⟨hlevel, harrival, hexhaustion⟩

/-! ### Notes -/

namespace Scene

variable {s t u : Scene}

/-- The later scene has the log of the earlier one and behind it only minor records. -/
def Notes (s t : Scene) : Prop :=
  ∃ noted, t.trace.records = s.trace.records ++ noted ∧ ∀ r ∈ noted, r.IsMinor

theorem Notes.of_eq (h : t.trace.records = s.trace.records) : s.Notes t :=
  ⟨[], by rw [h, List.append_nil], by simp⟩

theorem Notes.trans (h : s.Notes t) (h' : t.Notes u) : s.Notes u := by
  obtain ⟨noted, hnoted, hminor⟩ := h
  obtain ⟨more, hmore, hminor'⟩ := h'
  refine ⟨noted ++ more, ?_, List.forall_mem_append.mpr ⟨hminor, hminor'⟩⟩
  rw [hmore, hnoted, List.append_assoc]

theorem notes_logAll {records : List Record} (h : ∀ r ∈ records, r.IsMinor) :
    s.Notes (s.logAll records) :=
  ⟨records, rfl, h⟩

theorem notes_log {level : Level} {message : String} {fields : List (String × String)}
    (h : (⟨level, message, fields⟩ : Record).IsMinor) : s.Notes (s.log level message fields) :=
  notes_logAll (List.forall_mem_singleton.mpr h)

end Scene

/-- All that the stage logs is minor. -/
def LogsMinor (stage : Handler) : Prop :=
  ∀ (backend : Backend) (s : Scene), s.Notes (stage.call backend s).2

open Scene (Notes)

theorem Repository.isMinor_probe {tree : Disk.Tree} {path : String} :
    ∀ r ∈ (Repository.probe tree path).2, r.IsMinor := by
  unfold Repository.probe
  split
  · simp
  · simp
  · rw [List.forall_mem_singleton]
    exact Record.isMinor_mk (by decide) (by decide) (by decide)

namespace Authorize

variable {guard : Guard} {backend : Backend} {s : Scene}

theorem notes_consult (suffix : String) (backend : Backend) (s : Scene) :
    s.Notes (consult suffix backend s).2 := by
  have hconsulted := consulted suffix backend s
  generalize consult suffix backend s = result at hconsulted ⊢
  obtain ⟨answer, t⟩ := result
  cases hconsulted with
  | unasked asked => exact .of_eq rfl
  | unanswered asked sent silence => exact .of_eq rfl
  | @declined request response asked sent status =>
      have hheard : s.Notes (s.heard request response) := .of_eq rfl
      exact hheard.trans (Scene.notes_log (Record.isMinor_mk (by decide) (by decide) (by decide)))
  | unread asked sent status read => exact .of_eq rfl
  | approved asked sent status read => exact .of_eq rfl

theorem notes_prepare (guard : Guard) (s : Scene) (path : String) :
    s.Notes (prepare guard s path).2 := by
  cases guard with
  | repository => exact Scene.notes_logAll Repository.isMinor_probe
  | lfsObject | artifacts => exact .of_eq rfl

theorem notes_accept (guard : Guard) (s : Scene) : s.Notes (accept guard s).2 := by
  unfold accept
  cases place guard s.exchange.grant with
  | error fault => exact .of_eq rfl
  | ok path =>
      have hprepare := notes_prepare guard s path
      dsimp only
      generalize prepare guard s path = result at hprepare ⊢
      obtain ⟨fault | _, t⟩ := result
      · exact hprepare
      · exact hprepare

theorem logsMinor_handler (guard : Guard) : LogsMinor (handler guard) := by
  intro backend s
  show s.Notes (call guard backend s).2
  have hconsult := notes_consult (suffix guard) backend s
  rw [call_eq]
  generalize consult (suffix guard) backend s = result at hconsult ⊢
  obtain ⟨fault | _ | response, t⟩ := result
  · exact hconsult
  · exact hconsult.trans (notes_accept guard t)
  · exact hconsult

end Authorize

theorem Forward.logsMinor_handler : LogsMinor Forward.handler := by
  intro backend s
  have hforwarded := forwarded backend s
  generalize Forward.handler.call backend s = result at hforwarded ⊢
  obtain ⟨flow, t⟩ := result
  cases hforwarded with
  | unbuilt built => exact .of_eq rfl
  | unanswered built sent silence => exact .of_eq rfl
  | @relayed request response built sent =>
      have hsent : s.Notes (s.takeBody.2.deliver ⟨request, .answered response⟩) := .of_eq rfl
      exact hsent.trans (Scene.notes_log (Record.isMinor_mk (by decide) (by decide) (by decide)))

/-- What a run logs is minor if that of its stages is. -/
theorem Pipeline.notes_run {stages : List Handler} (backend : Backend) (s : Scene)
    (h : ∀ stage ∈ stages, LogsMinor stage) : s.Notes (run backend s stages).state :=
  run_induction (P := fun s _ t => s.Notes t) (fun _ => .of_eq rfl)
    (fun stage hstage s => h stage hstage backend s)
    (fun _ _ _ _ _ hmade hmore => hmade.trans hmore) s

/-! ### The log of a dispatched request -/

namespace Gateway

variable {link : Link} {backend : Backend} {tree : Disk.Tree} {request : Request}

/-- What the client of a dispatched request is told, and the errors that the log has of it. -/
inductive Told (g : Gateway) (backend : Backend) (tree : Disk.Tree) (request : Request) :
    Response → List Record → Prop
  /-- The request has no route. -/
  | missed (route : g.table.select? request.method request.uri.shownPath = none) :
      Told g backend tree request (.plain .forbidden "Forbidden") []
  /-- The backend's answer to the request sent last is the response, whatever it is. -/
  | relayed {question response}
      (ending : g.ending? backend tree request = some (.responded response))
      (heard : (g.dispatch backend tree request).2.trace.deliveries.getLast? =
        some ⟨question, .answered response⟩) :
      Told g backend tree request response []
  /-- A stage failed. -/
  | failed {stage fault}
      (ending : g.ending? backend tree request = some (.failed stage fault)) :
      Told g backend tree request fault.response
        [⟨.error, "Handler stage failed", [("stage", stage), ("error", fault.message)]⟩]

/-- The log begins with the arrival, and up to the end of the run the rest of it is minor. -/
theorem records_run (link : Link) (backend : Backend) (tree : Disk.Tree) (request : Request)
    (e : Route.Endpoint) :
    ∃ noted, (∀ r ∈ noted, r.IsMinor) ∧
      (Pipeline.run backend ((git .passThrough link).opening tree request e.name)
        (e.stages Authorize.handler Capabilities.passThrough)).state.trace.records =
        ⟨.info, "Request", [("method", request.method.token), ("uri", request.uri.text)]⟩ ::
          noted := by
  obtain ⟨noted, hnoted, hminor⟩ :=
    Pipeline.notes_run backend ((git .passThrough link).opening tree request e.name)
      (forall_stages Authorize.logsMinor_handler Forward.logsMinor_handler e)
  refine ⟨⟨.debug, "Route matched", [("route", e.name)]⟩ :: noted, ?_, ?_⟩
  · exact List.forall_mem_cons.mpr ⟨Record.isMinor_mk (by decide) (by decide) (by decide), hminor⟩
  · rw [hnoted]
    rfl

/-- The log of a request: its arrival, minor records, and then an error if the client is told of a
fault. -/
theorem exists_records (link : Link) (backend : Backend) (tree : Disk.Tree) (request : Request) :
    ∃ noted errors,
      ((git .passThrough link).dispatch backend tree request).2.trace.records =
        ⟨.info, "Request", [("method", request.method.token), ("uri", request.uri.text)]⟩ ::
          (noted ++ errors) ∧
      (∀ r ∈ noted, r.IsMinor) ∧
      (∀ r ∈ errors, r.level = .error ∧ r.message = "Handler stage failed") ∧
      Told (git .passThrough link) backend tree request
        ((git .passThrough link).dispatch backend tree request).1 errors := by
  cases hroute : (git .passThrough link).table.select? request.method request.uri.shownPath with
  | none =>
      rw [dispatch_of_noRoute hroute]
      exact ⟨[], [], rfl, by simp, by simp, .missed hroute⟩
  | some route =>
      obtain ⟨e, -, rfl⟩ := Route.exists_fits_of_select? hroute
      obtain ⟨noted, hminor, hrun⟩ := records_run link backend tree request e
      have hending : (git .passThrough link).ending? backend tree request = some
          (Pipeline.run backend ((git .passThrough link).opening tree request e.name)
            (e.stages Authorize.handler Capabilities.passThrough)).ending :=
        ending?_eq_some_iff.mpr ⟨_, hroute, rfl⟩
      have hdispatch : (git .passThrough link).dispatch backend tree request =
          Pipeline.settle (Pipeline.names (e.stages Authorize.handler Capabilities.passThrough))
            (Pipeline.run backend ((git .passThrough link).opening tree request e.name)
              (e.stages Authorize.handler Capabilities.passThrough)) :=
        dispatch_of_select hroute
      generalize Pipeline.run backend ((git .passThrough link).opening tree request e.name)
        (e.stages Authorize.handler Capabilities.passThrough) = run at hrun hending hdispatch
      obtain ⟨ending, scene, called⟩ := run
      cases ending with
      | responded response =>
          obtain ⟨question, hheard⟩ := heard_of_responded hending
          have htold := Told.relayed hending hheard
          rw [hdispatch]
          exact ⟨noted, [], by rw [List.append_nil]; exact hrun, hminor, by simp, htold⟩
      | failed stage fault =>
          rw [hdispatch]
          refine ⟨noted, _, ?_, hminor, ?_, .failed hending⟩
          · exact congrArg (· ++ [_]) hrun
          · exact List.forall_mem_singleton.mpr ⟨rfl, rfl⟩
      | exhausted => exact absurd hending ending?_ne_exhausted

/-- **Nothing fails in silence, and nothing is called a failure that is none.**  The first record
is that of the request, with its method and its whole URI, and there is no other like it.  If the
response is that of a fault, the log has one error, which names the stage that failed and the
fault; if the request has no route or the response is the backend's, it has none.  No run ends
without a response. -/
theorem no_silent_failure (link : Link) (backend : Backend) (tree : Disk.Tree)
    (request : Request) :
    (∃ later,
      ((git .passThrough link).dispatch backend tree request).2.trace.records =
        ⟨.info, "Request", [("method", request.method.token), ("uri", request.uri.text)]⟩ ::
          later ∧
      ∀ r ∈ later, r.message ≠ "Request") ∧
    Told (git .passThrough link) backend tree request
      ((git .passThrough link).dispatch backend tree request).1
      (((git .passThrough link).dispatch backend tree request).2.trace.records.filter
        (·.level = .error)) ∧
    ∀ r ∈ ((git .passThrough link).dispatch backend tree request).2.trace.records,
      r.message ≠ "Handler chain ended without a response" := by
  obtain ⟨noted, errors, hrecords, hminor, herrors, htold⟩ :=
    exists_records link backend tree request
  have hnone : noted.filter (·.level = .error) = [] := by
    rw [List.filter_eq_nil_iff]
    intro r hr
    simpa using (hminor r hr).level
  have hall : errors.filter (·.level = .error) = errors := by
    rw [List.filter_eq_self]
    intro r hr
    simpa using (herrors r hr).1
  rw [hrecords]
  refine ⟨⟨noted ++ errors, rfl, ?_⟩, ?_, ?_⟩
  · refine List.forall_mem_append.mpr ⟨fun r hr => (hminor r hr).arrival, ?_⟩
    intro r hr
    rw [(herrors r hr).2]
    decide
  · rw [List.filter_cons_of_neg (by simp), List.filter_append, hnone, hall, List.nil_append]
    exact htold
  · refine List.forall_mem_cons.mpr ⟨?_, List.forall_mem_append.mpr
      ⟨fun r hr => (hminor r hr).exhaustion, ?_⟩⟩
    · show "Request" ≠ _
      decide
    · intro r hr
      rw [(herrors r hr).2]
      decide

end Gateway

end FrontDoor
