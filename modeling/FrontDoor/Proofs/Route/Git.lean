/-
Which endpoint a request asks for.

The table compares segments and takes the first route that accepts.  Here the same choice is said
on the text of the path: `Spelled` is how the paths of one endpoint look, with any text in front,
and `asked?` picks among the endpoints of the request's method.  `select?_gitRoutes` is the
statement that the two agree on every method and path.

What the proof rests on is one lemma, `accepts_pattern_iff`: the pattern of an endpoint accepts
exactly the paths that are spelled like it.
-/
import FrontDoor.Gateway.Dispatch
import FrontDoor.Proofs.Route.Pattern

namespace FrontDoor

open Http (Method)

namespace Route

/-! ### How paths are spelled -/

/-- The identifier of a large object: 64 lowercase hexadecimal digits. -/
def IsOid (text : String) : Prop :=
  text.length = 64 ∧ ∀ c ∈ text.toList, IsHexadecimal c

/-- One or more decimal digits. -/
def IsNumber (text : String) : Prop :=
  text ≠ "" ∧ ∀ c ∈ text.toList, IsDecimal c

namespace Endpoint

/-- The path is spelled like those of the endpoint: any text, and then what is fixed. -/
def Spelled (path : String) : Endpoint → Prop
  | infoRefs => ∃ q, path = q ++ "/info/refs"
  | uploadPack => ∃ q, path = q ++ "/git-upload-pack"
  | receivePack => ∃ q, path = q ++ "/git-receive-pack"
  | archive => ∃ q, path = q ++ "/repository/archive"
  | archiveZip => ∃ q, path = q ++ "/repository/archive" ++ ".zip"
  | archiveTar => ∃ q, path = q ++ "/repository/archive" ++ ".tar"
  | archiveTarGz => ∃ q, path = q ++ "/repository/archive" ++ ".tar.gz"
  | archiveTarBz2 => ∃ q, path = q ++ "/repository/archive" ++ ".tar.bz2"
  | uploads => ∃ q r, path = q ++ "/uploads/" ++ r
  | lfsStore =>
    ∃ q h d, IsOid h ∧ IsNumber d ∧ path = q ++ "/gitlab-lfs/objects/" ++ h ++ "/" ++ d
  | lfsFetch => ∃ q h, IsOid h ∧ path = q ++ "/gitlab-lfs/objects/" ++ h
  | buildsDownload => ∃ q, path = q ++ "/builds/download"
  | artifactsFetch | artifactsUpload | artifactsDelete =>
    ∃ q d, IsNumber d ∧ path = q ++ "/ci/api/v1/builds/" ++ d ++ "/artifacts"

end Endpoint

theorem reads_hex_iff_isOid {text : String} : (Segment.hex 64).Reads text.toList ↔ IsOid text := by
  rw [reads_hex, IsOid, String.length_toList]

theorem reads_digits_iff_isNumber {text : String} :
    Segment.digits.Reads text.toList ↔ IsNumber text := by
  rw [reads_digits, IsNumber, Ne, String.toList_eq_nil_iff]

theorem reads_literal_iff (text : String) {part : String} (h : '/' ∉ text.toList) :
    (Segment.literal text).Reads part.toList ↔ part = text := by
  rw [reads_literal h, String.toList_inj]

/-! ### Patterns that begin with fixed texts -/

theorem forall₂_literals_append {texts : List String} (h : ∀ text ∈ texts, '/' ∉ text.toList)
    {segments : List Segment} {parts : List String} :
    List.Forall₂ (fun segment part => segment.Reads part.toList)
        (texts.map Segment.literal ++ segments) parts ↔
      ∃ rest, List.Forall₂ (fun segment part => segment.Reads part.toList) segments rest ∧
        parts = texts ++ rest := by
  induction texts generalizing parts with
  | nil => simp
  | cons text texts ih =>
      obtain ⟨htext, htexts⟩ := List.forall_mem_cons.mp h
      rw [List.map_cons, List.cons_append, List.forall₂_cons_left_iff]
      constructor
      · intro hgiven
        obtain ⟨part, parts', hread, hall, rfl⟩ := hgiven
        obtain ⟨rest, hrest, rfl⟩ := (ih htexts).mp hall
        rw [reads_literal_iff text htext] at hread
        exact ⟨rest, hrest, by rw [hread, List.cons_append]⟩
      · intro hgiven
        obtain ⟨rest, hrest, rfl⟩ := hgiven
        exact ⟨text, texts ++ rest, (reads_literal_iff text htext).mpr rfl,
          (ih htexts).mpr ⟨rest, hrest, rfl⟩, rfl⟩

/-- Fixed texts in a pattern stand in the path as they are. -/
theorem endsIn_literals_append (texts : List String) (h : ∀ text ∈ texts, '/' ∉ text.toList)
    (segments : List Segment) (path : String) :
    endsIn (texts.map Segment.literal ++ segments) path = true ↔
      ∃ (q : String) (rest : List String),
        List.Forall₂ (fun segment part => segment.Reads part.toList) segments rest ∧
          path = q ++ slashed texts ++ slashed rest := by
  rw [endsIn_iff_slashed]
  constructor
  · intro hgiven
    obtain ⟨q, parts, hall, rfl⟩ := hgiven
    obtain ⟨rest, hrest, rfl⟩ := (forall₂_literals_append h).mp hall
    exact ⟨q, rest, hrest, by rw [slashed_append, String.append_assoc]⟩
  · intro hgiven
    obtain ⟨q, rest, hrest, rfl⟩ := hgiven
    exact ⟨q, texts ++ rest, (forall₂_literals_append h).mpr ⟨rest, hrest, rfl⟩,
      by rw [slashed_append, String.append_assoc]⟩

theorem endsIn_literals {texts : List String} (h : ∀ text ∈ texts, '/' ∉ text.toList)
    {path : String} :
    endsIn (texts.map Segment.literal) path = true ↔ ∃ q, path = q ++ slashed texts := by
  have happend := endsIn_literals_append texts h [] path
  rw [List.append_nil] at happend
  simpa [List.forall₂_nil_left_iff] using happend

/-! ### The patterns of the endpoints

Each pattern is written as its fixed texts and the segments behind them, so that the lemmas above
apply; what is left is that the texts in this order are the path as it is spelled.
-/

namespace Endpoint

theorem endsIn_lfsStore {path : String} :
    endsIn [.literal "gitlab-lfs", .literal "objects", .hex 64, .digits] path = true ↔
      lfsStore.Spelled path := by
  have hfixed := endsIn_literals_append ["gitlab-lfs", "objects"] (by decide)
    [.hex 64, .digits] path
  have htext : ∀ q h d : String, q ++ slashed ["gitlab-lfs", "objects"] ++ slashed [h, d]
      = q ++ "/gitlab-lfs/objects/" ++ h ++ "/" ++ d := by
    intro q h d
    rw [← String.toList_inj]
    simp
  simp only [List.forall₂_cons_left_iff, List.forall₂_nil_left_iff, reads_hex_iff_isOid,
    reads_digits_iff_isNumber] at hfixed
  refine hfixed.trans ⟨?_, ?_⟩
  · intro hgiven
    obtain ⟨q, _, ⟨h, _, hh, ⟨d, _, hd, rfl, rfl⟩, rfl⟩, rfl⟩ := hgiven
    exact ⟨q, h, d, hh, hd, htext q h d⟩
  · intro hgiven
    obtain ⟨q, h, d, hh, hd, rfl⟩ := hgiven
    exact ⟨q, _, ⟨h, _, hh, ⟨d, _, hd, rfl, rfl⟩, rfl⟩, (htext q h d).symm⟩

theorem endsIn_lfsFetch {path : String} :
    endsIn [.literal "gitlab-lfs", .literal "objects", .hex 64] path = true ↔
      lfsFetch.Spelled path := by
  have hfixed := endsIn_literals_append ["gitlab-lfs", "objects"] (by decide)
    [.hex 64] path
  have htext : ∀ q h : String, q ++ slashed ["gitlab-lfs", "objects"] ++ slashed [h]
      = q ++ "/gitlab-lfs/objects/" ++ h := by
    intro q h
    rw [← String.toList_inj]
    simp
  simp only [List.forall₂_cons_left_iff, List.forall₂_nil_left_iff, reads_hex_iff_isOid] at hfixed
  refine hfixed.trans ⟨?_, ?_⟩
  · intro hgiven
    obtain ⟨q, _, ⟨h, _, hh, rfl, rfl⟩, rfl⟩ := hgiven
    exact ⟨q, h, hh, htext q h⟩
  · intro hgiven
    obtain ⟨q, h, hh, rfl⟩ := hgiven
    exact ⟨q, _, ⟨h, _, hh, rfl, rfl⟩, (htext q h).symm⟩

theorem endsIn_artifacts {path : String} :
    endsIn [.literal "ci", .literal "api", .literal "v1", .literal "builds", .digits,
        .literal "artifacts"] path = true ↔
      ∃ q d, IsNumber d ∧ path = q ++ "/ci/api/v1/builds/" ++ d ++ "/artifacts" := by
  have hfixed := endsIn_literals_append ["ci", "api", "v1", "builds"] (by decide)
    [.digits, .literal "artifacts"] path
  have htext : ∀ q d : String,
      q ++ slashed ["ci", "api", "v1", "builds"] ++ slashed [d, "artifacts"]
        = q ++ "/ci/api/v1/builds/" ++ d ++ "/artifacts" := by
    intro q d
    rw [← String.toList_inj]
    simp
  simp only [List.forall₂_cons_left_iff, List.forall₂_nil_left_iff, reads_digits_iff_isNumber,
    reads_literal_iff "artifacts" (by decide)] at hfixed
  refine hfixed.trans ⟨?_, ?_⟩
  · intro hgiven
    obtain ⟨q, _, ⟨d, _, hd, ⟨_, _, rfl, rfl, rfl⟩, rfl⟩, rfl⟩ := hgiven
    exact ⟨q, d, hd, htext q d⟩
  · intro hgiven
    obtain ⟨q, d, hd, rfl⟩ := hgiven
    exact ⟨q, _, ⟨d, _, hd, ⟨_, _, rfl, rfl, rfl⟩, rfl⟩, (htext q d).symm⟩

theorem containing_uploads {path : String} :
    (Pattern.containing uploadsFragment).accepts path = true ↔ uploads.Spelled path := by
  rw [Pattern.accepts, Text.occursIn_iff]
  constructor
  · intro hgiven
    obtain ⟨q, r, h⟩ := hgiven
    refine ⟨String.ofList q, String.ofList r, ?_⟩
    rw [← String.toList_inj, ← h]
    simp [uploadsFragment]
  · intro hgiven
    obtain ⟨q, r, rfl⟩ := hgiven
    exact ⟨q.toList, r.toList, by simp [uploadsFragment]⟩

/-- The pattern of an endpoint, its template read. -/
theorem pattern_eq : ∀ e : Endpoint, e.pattern =
    match e with
    | infoRefs => .tail (["info", "refs"].map .literal)
    | uploadPack => .tail (["git-upload-pack"].map .literal)
    | receivePack => .tail (["git-receive-pack"].map .literal)
    | archive => .tail (["repository", "archive"].map .literal)
    | archiveZip => .tail (["repository", "archive.zip"].map .literal)
    | archiveTar => .tail (["repository", "archive.tar"].map .literal)
    | archiveTarGz => .tail (["repository", "archive.tar.gz"].map .literal)
    | archiveTarBz2 => .tail (["repository", "archive.tar.bz2"].map .literal)
    | uploads => .containing uploadsFragment
    | lfsStore => .tail [.literal "gitlab-lfs", .literal "objects", .hex 64, .digits]
    | lfsFetch => .tail [.literal "gitlab-lfs", .literal "objects", .hex 64]
    | buildsDownload => .tail (["builds", "download"].map .literal)
    | artifactsFetch | artifactsUpload | artifactsDelete =>
      .tail [.literal "ci", .literal "api", .literal "v1", .literal "builds", .digits,
        .literal "artifacts"] := by
  intro e
  cases e <;> decide

/-- **The pattern of an endpoint accepts the paths that are spelled like it, and no others.** -/
theorem accepts_pattern_iff {e : Endpoint} {path : String} :
    e.pattern.accepts path = true ↔ e.Spelled path := by
  have literals (suffix : String) {texts : List String} (h : ∀ text ∈ texts, '/' ∉ text.toList)
      (hsuffix : slashed texts = suffix) :
      (Pattern.tail (texts.map .literal)).accepts path = true ↔ ∃ q, path = q ++ suffix := by
    rw [← hsuffix]
    exact endsIn_literals h
  have archives (suffix : String) (h : '/' ∉ ("archive" ++ suffix).toList) :
      (Pattern.tail (["repository", "archive" ++ suffix].map .literal)).accepts path = true ↔
        ∃ q, path = q ++ "/repository/archive" ++ suffix := by
    rw [literals ("/repository/archive" ++ suffix) (by simpa using h)
      (by rw [← String.toList_inj]; simp)]
    simp only [String.append_assoc]
  rw [pattern_eq]
  cases e with
  | infoRefs | uploadPack | receivePack | archive | buildsDownload =>
      exact literals _ (by decide) (by decide)
  | archiveZip => exact archives ".zip" (by decide)
  | archiveTar => exact archives ".tar" (by decide)
  | archiveTarGz => exact archives ".tar.gz" (by decide)
  | archiveTarBz2 => exact archives ".tar.bz2" (by decide)
  | uploads => exact containing_uploads
  | lfsStore => exact endsIn_lfsStore
  | lfsFetch => exact endsIn_lfsFetch
  | artifactsFetch | artifactsUpload | artifactsDelete => exact endsIn_artifacts

instance (e : Endpoint) (path : String) : Decidable (e.Spelled path) :=
  decidable_of_iff _ accepts_pattern_iff

/-- What is fixed about the paths of an endpoint is more than one character. -/
theorem length_of_spelled {e : Endpoint} {path : String} (h : e.Spelled path) :
    1 < path.toList.length := by
  cases e with
  | infoRefs | uploadPack | receivePack | archive | archiveZip | archiveTar | archiveTarGz
  | archiveTarBz2 | buildsDownload =>
      obtain ⟨q, rfl⟩ := h
      simp
  | uploads =>
      obtain ⟨q, r, rfl⟩ := h
      simp
      omega
  | lfsStore =>
      obtain ⟨q, oid, size, -, -, rfl⟩ := h
      simp
      omega
  | lfsFetch =>
      obtain ⟨q, oid, -, rfl⟩ := h
      simp
      omega
  | artifactsFetch | artifactsUpload | artifactsDelete =>
      obtain ⟨q, number, -, rfl⟩ := h
      simp
      omega

/-! ### The choice -/

/-- The endpoint is one that a request of the method for the path may be for. -/
def Fits (method : Method) (path : String) (e : Endpoint) : Prop :=
  e.method = method ∧ e.Spelled path

instance (method : Method) (path : String) (e : Endpoint) : Decidable (e.Fits method path) :=
  inferInstanceAs (Decidable (_ ∧ _))

/-- The endpoint that a request of the method for the path asks for. -/
def asked? (method : Method) (path : String) : Option Endpoint :=
  if method = .get then
    if infoRefs.Spelled path then some infoRefs
    else if archive.Spelled path then some archive
    else if archiveZip.Spelled path then some archiveZip
    else if archiveTar.Spelled path then some archiveTar
    else if archiveTarGz.Spelled path then some archiveTarGz
    else if archiveTarBz2.Spelled path then some archiveTarBz2
    else if uploads.Spelled path then some uploads
    else if lfsFetch.Spelled path then some lfsFetch
    else if buildsDownload.Spelled path then some buildsDownload
    else if artifactsFetch.Spelled path then some artifactsFetch
    else none
  else if method = .post then
    if uploadPack.Spelled path then some uploadPack
    else if receivePack.Spelled path then some receivePack
    else if artifactsUpload.Spelled path then some artifactsUpload
    else none
  else if method = .put then
    if lfsStore.Spelled path then some lfsStore else none
  else if method = .delete then
    if artifactsDelete.Spelled path then some artifactsDelete else none
  else none

theorem find?_cons_ite {α : Type} (p : α → Bool) (a : α) (l : List α) :
    (a :: l).find? p = if p a = true then some a else l.find? p := by
  rw [List.find?_cons]
  cases p a <;> rfl

/-- The first endpoint in the order of the table that fits. -/
theorem find?_all_eq_asked? (method : Method) (path : String) :
    (all.find? fun e => e.Fits method path) = asked? method path := by
  unfold asked? all
  simp only [find?_cons_ite, List.find?_nil, Fits]
  by_cases hget : method = .get
  · rw [hget]
    simp [Endpoint.method, Method.get, Method.post, Method.put, Method.delete]
  by_cases hpost : method = .post
  · rw [hpost]
    simp [Endpoint.method, Method.get, Method.post, Method.put, Method.delete]
  by_cases hput : method = .put
  · rw [hput]
    simp [Endpoint.method, Method.get, Method.post, Method.put, Method.delete]
  by_cases hdelete : method = .delete
  · rw [hdelete]
    simp [Endpoint.method, Method.get, Method.post, Method.put, Method.delete]
  -- No endpoint has any other method.
  · simp [Endpoint.method, hget, hpost, hput, hdelete, Ne.symm hget, Ne.symm hpost, Ne.symm hput,
      Ne.symm hdelete]

end Endpoint

/-! ### The table -/

section
variable {σ : Type} {guard : Guard → σ} {serve : Family → σ} {method : Method} {path : String}

/-- The route of an endpoint accepts its method with the paths that are spelled like it. -/
theorem accepts_route_iff {e : Endpoint} :
    (e.route guard serve).accepts method path = true ↔ e.Fits method path := by
  rw [Route.accepts, Bool.and_eq_true, beq_iff_eq]
  exact and_congr_right fun _ => Endpoint.accepts_pattern_iff

/-- Among the routes of endpoints in any order, the first that accepts. -/
theorem find?_map_route (order : List Endpoint) :
    (order.map (Endpoint.route guard serve)).find? (·.accepts method path) =
      (order.find? fun e => e.Fits method path).map (Endpoint.route guard serve) := by
  rw [List.find?_map]
  congr 2
  funext e
  rw [Bool.eq_iff_iff, decide_eq_true_iff]
  exact accepts_route_iff

end

/-- A route is that of an endpoint which the request fits. -/
theorem exists_fits_of_select? {capabilities : Capabilities} {method : Method} {path : String}
    {route : Route Handler} (h : (gitRoutes capabilities).select? method path = some route) :
    ∃ e : Endpoint, e.Fits method path ∧ route = e.route Authorize.handler capabilities := by
  rw [Table.select?, gitRoutes, gitTable, find?_map_route] at h
  obtain ⟨e, hfound, rfl⟩ := Option.map_eq_some_iff.mp h
  exact ⟨e, by simpa using List.find?_some hfound, rfl⟩

/-- If the route is that of an endpoint, the request fits this endpoint. -/
theorem fits_of_select? {capabilities : Capabilities} {method : Method} {path : String}
    {e : Endpoint}
    (h : (gitRoutes capabilities).select? method path =
      some (e.route Authorize.handler capabilities)) : e.Fits method path := by
  obtain ⟨haccepts, -⟩ := List.find?_eq_some_iff_append.mp h
  exact accepts_route_iff.mp haccepts

/-- **The route of a request is that of the endpoint it asks for, and there is none when it asks
for none.** -/
theorem select?_gitRoutes (capabilities : Capabilities) (method : Method) (path : String) :
    (gitRoutes capabilities).select? method path =
      (Endpoint.asked? method path).map (Endpoint.route Authorize.handler capabilities) := by
  rw [Table.select?, gitRoutes, gitTable, find?_map_route, Endpoint.find?_all_eq_asked?]

end Route

end FrontDoor
