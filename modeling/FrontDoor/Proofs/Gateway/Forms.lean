/-
The absolute form of a request is served as its origin form.

Two requests are served side by side that are one request in the two forms.  All that a stage reads
of a request is its method, its path, what is delegated for it and its body, and in these the two
agree, so every stage does the same with both.  `Scene.AbsoluteOf` is what stays the same of the
two scenes, which is everything but the request and the log, where its URI is written down.  Each
stage keeps it and wants the same next (`Agrees`), and so the two runs go through the same stages
to the same end.
-/
import FrontDoor.Gateway.Serve
import FrontDoor.Proofs.Delegation.Forms
import FrontDoor.Proofs.Gateway.Ending

namespace FrontDoor

open Http
open Route (Endpoint Guard)

namespace Scene

/-- The two scenes are those of one request in the two forms: only the request itself and the log
may tell them apart. -/
structure AbsoluteOf (s t : Scene) : Prop where
  request : ∃ authority, s.exchange.request.AbsoluteOf t.exchange.request authority
  link : s.exchange.link = t.exchange.link
  grant : s.exchange.grant = t.exchange.grant
  tree : s.tree = t.tree
  deliveries : s.trace.deliveries = t.trace.deliveries
  counts : s.trace.counts = t.trace.counts
  sightings : s.trace.sightings = t.trace.sightings

namespace AbsoluteOf

variable {s t : Scene}

theorem of_records (h : s.AbsoluteOf t) (records records' : List Record) :
    { s with trace := { s.trace with records } : Scene }.AbsoluteOf
      { t with trace := { t.trace with records := records' } } :=
  { h with }

theorem count (h : s.AbsoluteOf t) (counts : List Series) :
    (s.count counts).AbsoluteOf (t.count counts) :=
  { h with counts := by simp only [Scene.count, h.counts] }

theorem withGrant (h : s.AbsoluteOf t) (grant : Grant) :
    (s.withGrant grant).AbsoluteOf (t.withGrant grant) :=
  { h with grant := rfl }

theorem deliver (h : s.AbsoluteOf t) (delivery : Delivery) :
    (s.deliver delivery).AbsoluteOf (t.deliver delivery) :=
  { h with deliveries := by simp only [Scene.deliver, h.deliveries] }

theorem takeBody (h : s.AbsoluteOf t) :
    s.takeBody.1 = t.takeBody.1 ∧ s.takeBody.2.AbsoluteOf t.takeBody.2 := by
  obtain ⟨authority, hrequest⟩ := h.request
  exact ⟨hrequest.body, { h with request := ⟨authority, { hrequest with body := rfl }⟩ }⟩

theorem sent (h : s.AbsoluteOf t) : s.trace.sent = t.trace.sent := by
  rw [Trace.sent, h.deliveries, Trace.sent]

/-- The same is delegated for both. -/
theorem delegated (h : s.AbsoluteOf t) (body? : Option Bytes) (suffix : String) :
    s.exchange.link.delegation.request s.exchange.request body? suffix =
      t.exchange.link.delegation.request t.exchange.request body? suffix := by
  obtain ⟨authority, hrequest⟩ := h.request
  rw [h.link]
  exact Delegation.request_absoluteOf hrequest _ body? suffix

end AbsoluteOf

end Scene

/-- The stage does the same in two scenes that are those of one request in the two forms. -/
def Agrees (stage : Handler) : Prop :=
  ∀ backend s t, s.AbsoluteOf t →
    (stage.call backend s).1 = (stage.call backend t).1 ∧
      (stage.call backend s).2.AbsoluteOf (stage.call backend t).2

/-! ### The stages -/

namespace Authorize

variable {s t : Scene}

theorem weigh_absoluteOf (h : s.AbsoluteOf t) (response : Response) :
    (weigh s response).1 = (weigh t response).1 ∧
      (weigh s response).2.AbsoluteOf (weigh t response).2 := by
  have hcounted := h.count [.authorizations response.status.code, .authorizationTime]
  unfold weigh
  by_cases hstatus : response.status = .ok
  · simp only [if_pos hstatus]
    cases readGrant response.payload with
    | error fault => exact ⟨rfl, hcounted⟩
    | ok grant => exact ⟨rfl, hcounted.withGrant grant⟩
  · simp only [if_neg hstatus]
    exact ⟨trivial, hcounted.of_records _ _⟩

theorem consult_absoluteOf (h : s.AbsoluteOf t) (suffix : String) (backend : Backend) :
    (consult suffix backend s).1 = (consult suffix backend t).1 ∧
      (consult suffix backend s).2.AbsoluteOf (consult suffix backend t).2 := by
  unfold consult
  rw [h.delegated]
  cases t.exchange.link.delegation.request t.exchange.request none suffix with
  | error problem => exact ⟨rfl, h⟩
  | ok question =>
      simp only [Scene.send_eq, h.sent, h.link]
      generalize backend t.trace.sent question = outcome
      have hdelivered := h.deliver ⟨question, outcome⟩
      cases outcome with
      | failed failure => exact ⟨rfl, hdelivered⟩
      | silent => exact ⟨rfl, hdelivered⟩
      | answered response => exact weigh_absoluteOf hdelivered response

theorem prepare_absoluteOf (guard : Guard) (h : s.AbsoluteOf t) (path : String) :
    (prepare guard s path).1 = (prepare guard t path).1 ∧
      (prepare guard s path).2.AbsoluteOf (prepare guard t path).2 := by
  cases guard with
  | repository =>
      simp only [prepare, h.tree]
      exact ⟨trivial, h.of_records _ _⟩
  | lfsObject | artifacts =>
      simp only [prepare, h.tree]
      exact ⟨trivial, { h with tree := rfl }⟩

theorem agrees_handler (guard : Guard) : Agrees (handler guard) := by
  intro backend s t h
  have hcall : ∀ s, (handler guard).call backend s = call guard backend s := fun _ => rfl
  rw [hcall, hcall]
  exact call_congr (consult_absoluteOf h (suffix guard) backend) fun _ _ h =>
    accept_congr h h.grant (prepare_absoluteOf guard h)

end Authorize

theorem Forward.agrees_handler : Agrees Forward.handler := by
  intro backend s t h
  show (Forward.call backend s).1 = (Forward.call backend t).1 ∧
    (Forward.call backend s).2.AbsoluteOf (Forward.call backend t).2
  obtain ⟨hbody, h⟩ := h.takeBody
  unfold Forward.call
  generalize s.takeBody = left at hbody h ⊢
  generalize t.takeBody = right at hbody h ⊢
  obtain ⟨body, s⟩ := left
  obtain ⟨_, t⟩ := right
  obtain rfl := hbody
  dsimp only at h ⊢
  rw [h.delegated]
  cases t.exchange.link.delegation.request t.exchange.request (some body) "" with
  | error problem => exact ⟨rfl, h⟩
  | ok request =>
      simp only [Scene.send_eq, h.sent, h.link]
      generalize backend t.trace.sent request = outcome
      have hdelivered := h.deliver ⟨request, outcome⟩
      cases outcome with
      | failed failure => exact ⟨rfl, hdelivered⟩
      | silent => exact ⟨rfl, hdelivered⟩
      | answered response => exact ⟨rfl, hdelivered.of_records _ _⟩

/-! ### Runs -/

/-- Stages that agree one by one agree as a pipeline. -/
theorem Pipeline.run_absoluteOf {stages : List Handler} (hstages : ∀ stage ∈ stages, Agrees stage)
    (backend : Backend) {s t : Scene} (h : s.AbsoluteOf t) :
    (run backend s stages).ending = (run backend t stages).ending ∧
      (run backend s stages).state.AbsoluteOf (run backend t stages).state := by
  induction stages generalizing s t with
  | nil => exact ⟨rfl, h⟩
  | cons stage stages ih =>
      obtain ⟨hstage, hstages⟩ := List.forall_mem_cons.mp hstages
      obtain ⟨hflow, hscene⟩ := hstage backend s t h
      rcases hs : stage.call backend s with ⟨flow, s'⟩
      rcases ht : stage.call backend t with ⟨_, t'⟩
      rw [hs, ht] at hflow hscene
      obtain rfl := hflow
      cases flow with
      | next =>
          rw [run_cons_of_next hs, run_cons_of_next ht]
          exact ih hstages hscene
      | respond answer =>
          rw [run_cons_of_respond hs, run_cons_of_respond ht]
          exact ⟨rfl, hscene⟩
      | fail failure =>
          rw [run_cons_of_fail hs, run_cons_of_fail ht]
          exact ⟨rfl, hscene⟩

namespace Gateway

/-- To the client, the backend and the file system, and in what is counted, the two come to the
same. -/
structure SameOutcome (left right : Response × Scene) : Prop where
  response : left.1 = right.1
  deliveries : left.2.trace.deliveries = right.2.trace.deliveries
  counts : left.2.trace.counts = right.2.trace.counts
  tree : left.2.tree = right.2.tree

theorem sameOutcome_settle {left right : Run Scene Response Fault} (names : List String)
    (hending : left.ending = right.ending) (hstate : left.state.AbsoluteOf right.state) :
    SameOutcome (Pipeline.settle names left) (Pipeline.settle names right) := by
  unfold Pipeline.settle
  rw [hending]
  cases right.ending with
  | responded response => exact ⟨rfl, hstate.deliveries, hstate.counts, hstate.tree⟩
  | failed stage fault => exact ⟨rfl, hstate.deliveries, hstate.counts, hstate.tree⟩
  | exhausted => exact ⟨rfl, hstate.deliveries, hstate.counts, hstate.tree⟩

variable {absolute origin : Request} {authority : String}

theorem select?_absoluteOf (h : absolute.AbsoluteOf origin authority) (g : Gateway) :
    g.table.select? absolute.method absolute.uri.shownPath =
      g.table.select? origin.method origin.uri.shownPath := by
  rw [h.method, h.shownPath]

theorem opening_absoluteOf (h : absolute.AbsoluteOf origin authority) (g : Gateway)
    (tree : Disk.Tree) (route : String) :
    (g.opening tree absolute route).AbsoluteOf (g.opening tree origin route) where
  request := ⟨authority, h⟩
  link := rfl
  grant := rfl
  tree := rfl
  deliveries := rfl
  counts := by simp [opening, arrival, Scene.log, Scene.count, h.method]
  sightings := rfl

/-- A request is dispatched the same in either form. -/
theorem sameOutcome_dispatch (h : absolute.AbsoluteOf origin authority) (link : Link)
    (backend : Backend) (tree : Disk.Tree) :
    SameOutcome ((git .passThrough link).dispatch backend tree absolute)
      ((git .passThrough link).dispatch backend tree origin) := by
  have hselect := select?_absoluteOf h (git .passThrough link)
  cases hroute : (git .passThrough link).table.select? origin.method origin.uri.shownPath with
  | none =>
      rw [dispatch_of_noRoute hroute, dispatch_of_noRoute (hselect.trans hroute)]
      exact ⟨rfl, rfl, by simp [arrival, Scene.log, Scene.count, h.method], rfl⟩
  | some route =>
      rw [dispatch_of_select hroute, dispatch_of_select (hselect.trans hroute)]
      obtain ⟨e, -, rfl⟩ := Route.exists_fits_of_select? hroute
      obtain ⟨hending, hstate⟩ := Pipeline.run_absoluteOf
        (forall_stages Authorize.agrees_handler Forward.agrees_handler e) backend
        (opening_absoluteOf h (git .passThrough link) tree e.name)
      exact sameOutcome_settle _ hending hstate

/-- The two forms stay two forms when they are given one identifier. -/
theorem identified_absoluteOf (h : absolute.AbsoluteOf origin authority) (fresh : String) :
    (identified fresh absolute).AbsoluteOf (identified fresh origin) authority :=
  { h with
    host := by
      simp only [identified, Headers.values_setIfMissing]
      rw [if_neg fun hsame => absurd hsame.1 (by decide)]
      exact h.host
    headers := by
      simp only [identified, h.headers]
      exact (Headers.without_setIfMissing (by decide)).symm }

theorem correlated_absoluteOf (h : absolute.AbsoluteOf origin authority) (response : Response) :
    correlated absolute response = correlated origin response := by
  have hfirst : absolute.headers.first? requestIdField = origin.headers.first? requestIdField := by
    rw [Headers.first?, h.headers, Headers.values_without, if_neg (by decide), Headers.first?]
  rw [correlated, hfirst, correlated]

/-- A request is served the same in either form, given the same identifier. -/
theorem sameOutcome_serve (h : absolute.AbsoluteOf origin authority) (link : Link)
    (fresh : String) (backend : Backend) (tree : Disk.Tree) :
    SameOutcome ((git .passThrough link).serve fresh backend tree absolute)
      ((git .passThrough link).serve fresh backend tree origin) := by
  have hidentified := identified_absoluteOf h fresh
  have houtcome := sameOutcome_dispatch hidentified link backend tree
  refine { houtcome with response := ?_ }
  simp only [serve]
  rw [houtcome.response, correlated_absoluteOf hidentified, hidentified.method]

/-- **The absolute form of a request is served as its origin form.**  Of two requests, one has the
URI with scheme and authority, and the other the path and query behind them and the authority in a
host field, which the first has none of; all else is the same in both.  Then the same is delegated
for both or the same is wrong with both, they have the same route, and dispatching them, or serving
them with one identifier, sends the same requests, counts the same, leaves the same file system and
gives the same response. -/
theorem absolute_form_as_origin_form {scheme authority target : String} {uri : Uri}
    (hscheme : ∀ c ∈ scheme.toList, Uri.isSchemeChar c = true)
    (hauthority : ∀ c ∈ authority.toList, Uri.endsAuthority c = false)
    (htarget : ∃ rest, target = "/" ++ rest)
    (hread : Uri.ofText (scheme ++ "://" ++ authority ++ target) = .ok uri)
    (request : Request) (front back : Headers) (hhost : (front ++ back).values "host" = []) :
    ∃ uri', Uri.ofText target = .ok uri' ∧
      let absolute := { request with uri, headers := front ++ back }
      let origin :=
        { request with
          uri := uri', headers := front ++ ⟨"host", Bytes.ofString authority⟩ :: back }
      (∀ (d : Delegation) (body? : Option Bytes) (suffix : String),
        d.request absolute body? suffix = d.request origin body? suffix) ∧
      ∀ (link : Link),
        (git .passThrough link).table.select? absolute.method absolute.uri.shownPath =
          (git .passThrough link).table.select? origin.method origin.uri.shownPath ∧
        ∀ (backend : Backend) (tree : Disk.Tree),
          SameOutcome ((git .passThrough link).dispatch backend tree absolute)
            ((git .passThrough link).dispatch backend tree origin) ∧
          ∀ (fresh : String),
            SameOutcome ((git .passThrough link).serve fresh backend tree absolute)
              ((git .passThrough link).serve fresh backend tree origin) := by
  obtain ⟨uri', hread', h⟩ := Http.Request.absoluteOf hscheme hauthority htarget hread
    { request with uri, headers := front ++ back } front back rfl rfl hhost
  refine ⟨uri', hread', Delegation.request_absoluteOf h, fun link => ?_⟩
  exact ⟨select?_absoluteOf h _, fun backend tree =>
    ⟨sameOutcome_dispatch h link backend tree,
      fun fresh => sameOutcome_serve h link fresh backend tree⟩⟩

/-- A fetch with a complete URI, next to one with a path and a host. -/
theorem absolute_form_as_origin_form_fetch :
    ((git .passThrough ⟨⟨"http://b", "1"⟩, .ofSeconds 1⟩).dispatch
      (fun _ question => .answered { headers := question.headers }) {}
      { uri :=
          { scheme? := some "https", authority? := some "git.example:8443", path := "/p/uploads/f"
            query? := some "x" }
        headers := [⟨"accept", Bytes.ofString "*"⟩, ⟨"range", Bytes.ofString "0"⟩] }).1 =
    ((git .passThrough ⟨⟨"http://b", "1"⟩, .ofSeconds 1⟩).dispatch
      (fun _ question => .answered { headers := question.headers }) {}
      { uri := { path := "/p/uploads/f", query? := some "x" }
        headers := [⟨"accept", Bytes.ofString "*"⟩, ⟨"host", Bytes.ofString "git.example:8443"⟩,
          ⟨"range", Bytes.ofString "0"⟩] }).1 := by
  have hread : Uri.ofText ("HTTPS" ++ "://" ++ "git.example:8443" ++ "/p/uploads/f?x") = .ok
      { scheme? := some "https", authority? := some "git.example:8443", path := "/p/uploads/f"
        query? := some "x" } := by
    rfl
  have hread' : Uri.ofText "/p/uploads/f?x" =
      .ok { path := "/p/uploads/f", query? := some "x" } := by
    rfl
  have hscheme : ∀ c ∈ "HTTPS".toList, Uri.isSchemeChar c = true := by
    simp [Uri.isSchemeChar]
  have hauthority : ∀ c ∈ "git.example:8443".toList, Uri.endsAuthority c = false := by
    simp [Uri.endsAuthority]
  obtain ⟨uri', huri', -, hsame⟩ := absolute_form_as_origin_form hscheme hauthority
    ⟨"p/uploads/f?x", by decide⟩ hread { uri := {} }
    [⟨"accept", Bytes.ofString "*"⟩] [⟨"range", Bytes.ofString "0"⟩] rfl
  rw [hread'] at huri'
  obtain rfl := Except.ok.inj huri'
  exact ((hsame _).2 _ {}).1.response

end Gateway

end FrontDoor
