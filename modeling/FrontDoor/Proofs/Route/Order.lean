/-
How much the order of the routes matters.

Almost not at all.  Two endpoints of one method whose patterns list segments never share a path,
because their last segments read no text in common.  Only stored uploads are known by a fragment
anywhere in the path, so only they can be met together with another endpoint, and then with
exactly one.  `fits_cases` says this of the table; from it follows which orders of the same
routes choose alike: those that keep the uploads between the endpoints that may come first and
those that may come last.
-/
import Mathlib.Data.Set.Image
import Mathlib.Data.Set.Subsingleton
import FrontDoor.Proofs.Route.Git

namespace FrontDoor.Route

open Http (Method)

/-! ### The first that fits has the least position -/

section
variable {α : Type} [DecidableEq α] {p : α → Bool} {l : List α} {a b : α}

theorem find?_eq_some_of_idxOf_le (ha : a ∈ l) (hp : p a = true)
    (hfirst : ∀ b ∈ l, p b = true → l.idxOf a ≤ l.idxOf b) : l.find? p = some a := by
  induction l with
  | nil => cases ha
  | cons c l ih =>
      by_cases hc : p c = true
      · have hle := hfirst c (List.mem_cons_self ..) hc
        rw [List.idxOf_cons_self, Nat.le_zero] at hle
        have hca : c = a := by
          by_contra hne
          rw [List.idxOf_cons_ne _ hne] at hle
          exact Nat.succ_ne_zero _ hle
        rw [List.find?_cons_of_pos hc, hca]
      · have hne {b : α} (hb : p b = true) : c ≠ b := fun hcb => hc (hcb ▸ hb)
        rw [List.find?_cons_of_neg hc]
        refine ih ((List.mem_cons.mp ha).resolve_left (hne hp).symm) fun b hb hpb => ?_
        have hle := hfirst b (List.mem_cons_of_mem _ hb) hpb
        rw [List.idxOf_cons_ne _ (hne hp), List.idxOf_cons_ne _ (hne hpb)] at hle
        exact Nat.le_of_succ_le_succ hle

theorem idxOf_le_of_find?_eq_some (h : l.find? p = some a) (hb : p b = true) :
    l.idxOf a ≤ l.idxOf b := by
  induction l with
  | nil => cases h
  | cons c l ih =>
      by_cases hc : p c = true
      · rw [List.find?_cons_of_pos hc, Option.some.injEq] at h
        rw [h, List.idxOf_cons_self]
        exact Nat.zero_le _
      · rw [List.find?_cons_of_neg hc] at h
        have hne {b : α} (hb : p b = true) : c ≠ b := fun hcb => hc (hcb ▸ hb)
        rw [List.idxOf_cons_ne _ (hne (List.find?_some h)), List.idxOf_cons_ne _ (hne hb)]
        exact Nat.succ_le_succ (ih h)

end

/-! ### Last segments -/

/-- No text is admitted by both segments. -/
def Segment.clash : Segment → Segment → Bool
  | .literal a, .literal b => a != b
  | .literal a, .hex n | .hex n, .literal a => a.length != n
  | _, _ => false

theorem not_admits_of_clash {s t : Segment} {piece : List Char} (h : s.clash t = true)
    (hs : s.admits piece = true) : ¬t.admits piece = true := by
  have texts {a b : String} (hab : (a != b) = true) (ha : piece = a.toList) :
      piece ≠ b.toList := by
    rw [ha, Ne, String.toList_inj]
    exact bne_iff_ne.mp hab
  have lengths {a : String} {n : Nat} (han : (a.length != n) = true) (ha : piece = a.toList) :
      piece.length ≠ n := by
    rw [ha, String.length_toList]
    exact bne_iff_ne.mp han
  cases s with
  | literal a =>
      have ha : piece = a.toList := by simpa [Segment.admits] using hs
      cases t with
      | literal b => simpa [Segment.admits] using texts h ha
      | hex n => simp [Segment.admits, lengths h ha]
      | digits => cases h
  | hex n =>
      have hn : piece.length = n := by
        simp only [Segment.admits, Bool.and_eq_true, beq_iff_eq] at hs
        exact hs.1
      cases t with
      | literal a => simpa [Segment.admits] using fun ha => lengths h ha hn
      | hex m => cases h
      | digits => cases h
  | digits => cases h

/-- The last segment of a pattern stands for the last piece of the path. -/
theorem admits_getLast {segments : List Segment} {segment : Segment} {path : String}
    (h : endsIn segments path = true) (hlast : segments.getLast? = some segment) :
    ∃ piece, (Text.pieces '/' path.toList).getLast? = some piece ∧
      segment.admits piece = true := by
  obtain ⟨front, -, parts, hpieces, hall⟩ := endsIn_iff_exists_pieces.mp h
  obtain ⟨init, rfl⟩ := List.getLast?_eq_some_iff.mp hlast
  rw [← List.forall₂_reverse_iff, List.reverse_append, List.reverse_singleton,
    List.singleton_append, List.forall₂_cons_left_iff] at hall
  obtain ⟨piece, others, hpiece, -, hparts⟩ := hall
  refine ⟨piece, ?_, hpiece⟩
  rw [hpieces, List.reverse_eq_cons_iff.mp hparts]
  simp

namespace Endpoint

/-- What the paths of an endpoint have behind their last slash. -/
def lastSegment? (e : Endpoint) : Option Segment :=
  match e.pattern with
  | .tail segments => segments.getLast?
  | .containing _ => none

theorem mem_all : ∀ e : Endpoint, e ∈ all := by
  intro e
  cases e <;> decide

theorem clash_of_ne : ∀ e ∈ all, ∀ e' ∈ all, e ≠ uploads → e' ≠ uploads →
    e.method = e'.method → e ≠ e' →
      ∃ s ∈ e.lastSegment?, ∃ t ∈ e'.lastSegment?, s.clash t = true := by
  decide

theorem admits_lastSegment? {e : Endpoint} {path : String} (h : e.Spelled path) {s : Segment}
    (hs : s ∈ e.lastSegment?) :
    ∃ piece, (Text.pieces '/' path.toList).getLast? = some piece ∧ s.admits piece = true := by
  rw [← accepts_pattern_iff] at h
  unfold lastSegment? at hs
  split at hs
  · rename_i segments hpattern
    rw [hpattern] at h
    exact admits_getLast h hs
  · cases hs

/-- **Uploads apart, a method and a path are those of one endpoint at most.** -/
theorem eq_of_spelled {e e' : Endpoint} {path : String} (hmethod : e.method = e'.method)
    (he : e ≠ uploads) (he' : e' ≠ uploads) (h : e.Spelled path) (h' : e'.Spelled path) :
    e = e' := by
  by_contra hne
  obtain ⟨s, hs, t, ht, hclash⟩ :=
    clash_of_ne e (mem_all e) e' (mem_all e') he he' hmethod hne
  obtain ⟨piece, hpiece, hadmits⟩ := admits_lastSegment? h hs
  obtain ⟨piece', hpiece', hadmits'⟩ := admits_lastSegment? h' ht
  rw [hpiece, Option.some.injEq] at hpiece'
  rw [← hpiece'] at hadmits'
  exact not_admits_of_clash hclash hadmits hadmits'

/-! ### Uploads and the others -/

/-- The endpoints that may be met together with uploads and come before them. -/
def beforeUploads : List Endpoint :=
  [infoRefs, archive, archiveZip, archiveTar, archiveTarGz, archiveTarBz2]

/-- The endpoints that may be met together with uploads and come behind them. -/
def behindUploads : List Endpoint :=
  [lfsFetch, buildsDownload, artifactsFetch]

theorem mem_of_method_eq : ∀ e ∈ all, e.method = uploads.method → e ≠ uploads →
    e ∈ beforeUploads ++ behindUploads := by
  decide

theorem mem_beforeUploads_of_guarded : ∀ e ∈ all, e.method = uploads.method → e.guard?.isSome →
    e ∈ beforeUploads := by
  decide

theorem fits_cases (method : Method) (path : String) :
    {e : Endpoint | e.Fits method path} = ∅ ∨
      (∃ e : Endpoint, {e : Endpoint | e.Fits method path} = {e}) ∨
      ∃ r ∈ beforeUploads ++ behindUploads, {e : Endpoint | e.Fits method path} = {uploads, r} := by
  have unique {e e' : Endpoint} (he : e.Fits method path) (he' : e'.Fits method path)
      (hne : e ≠ uploads) (hne' : e' ≠ uploads) : e = e' :=
    eq_of_spelled (he.1.trans he'.1.symm) hne hne' he.2 he'.2
  by_cases hother : ∃ r : Endpoint, r.Fits method path ∧ r ≠ uploads
  · obtain ⟨r, hr, hne⟩ := hother
    by_cases huploads : uploads.Fits method path
    · refine Or.inr (Or.inr ⟨r, mem_of_method_eq r (mem_all r) ?_ hne, ?_⟩)
      · rw [hr.1, huploads.1]
      · ext e
        constructor
        · intro he
          by_cases heq : e = uploads
          · exact Or.inl heq
          · exact Or.inr (unique he hr heq hne)
        · rintro (rfl | rfl)
          · exact huploads
          · exact hr
    · refine Or.inr (Or.inl ⟨r, ?_⟩)
      ext e
      constructor
      · intro he
        exact unique he hr (fun heq => huploads (heq ▸ he)) hne
      · rintro rfl
        exact hr
  · have honly : ∀ e : Endpoint, e.Fits method path → e = uploads := by
      intro e he
      by_contra hne
      exact hother ⟨e, he, hne⟩
    exact (Set.Subsingleton.eq_empty_or_singleton
      (fun e he e' he' => (honly e he).trans (honly e' he').symm)).imp_right Or.inl

/-! ### Orders that choose alike -/

/-- Uploads come behind those endpoints and before these. -/
def Between (order : List Endpoint) : Prop :=
  (∀ r ∈ beforeUploads, order.idxOf r < order.idxOf uploads) ∧
    ∀ r ∈ behindUploads, order.idxOf uploads < order.idxOf r

theorem between_all : Between all := by
  unfold Between
  decide

section
variable {order : List Endpoint} {method : Method} {path : String}

theorem find?_eq_some_of_first (horder : order.Perm all) {a : Endpoint} (ha : a.Fits method path)
    (hfirst : ∀ b : Endpoint, b.Fits method path → order.idxOf a ≤ order.idxOf b) :
    (order.find? fun e => e.Fits method path) = some a :=
  find?_eq_some_of_idxOf_le (horder.mem_iff.mpr (mem_all a)) (decide_eq_true ha)
    fun b _ hb => hfirst b (of_decide_eq_true hb)

theorem find?_of_mem_beforeUploads (horder : order.Perm all) (hbetween : Between order)
    {r : Endpoint} (hr : r ∈ beforeUploads) (hfits : r.Fits method path) :
    (order.find? fun e => e.Fits method path) = some r := by
  refine find?_eq_some_of_first horder hfits fun b hb => ?_
  by_cases heq : b = uploads
  · rw [heq]
    exact Nat.le_of_lt (hbetween.1 r hr)
  · have hne : r ≠ uploads := by
      rintro rfl
      exact absurd hr (by decide)
    rw [eq_of_spelled (hb.1.trans hfits.1.symm) heq hne hb.2 hfits.2]

theorem find?_of_mem_behindUploads (horder : order.Perm all) (hbetween : Between order)
    {r : Endpoint} (hr : r ∈ behindUploads) (hfits : r.Fits method path)
    (huploads : uploads.Fits method path) :
    (order.find? fun e => e.Fits method path) = some uploads := by
  refine find?_eq_some_of_first horder huploads fun b hb => ?_
  by_cases heq : b = uploads
  · rw [heq]
  · have hne : r ≠ uploads := by
      rintro rfl
      exact absurd hr (by decide)
    rw [eq_of_spelled (hb.1.trans hfits.1.symm) heq hne hb.2 hfits.2]
    exact Nat.le_of_lt (hbetween.2 r hr)

/-- A guarded endpoint that fits is the one that is chosen. -/
theorem find?_all_of_guarded {e : Endpoint} (hguard : e.guard?.isSome)
    (he : e.Fits method path) : (all.find? fun e => e.Fits method path) = some e := by
  by_cases hmethod : e.method = uploads.method
  · exact find?_of_mem_beforeUploads (List.Perm.refl all) between_all
      (mem_beforeUploads_of_guarded e (mem_all e) hmethod hguard) he
  · refine find?_eq_some_of_first (List.Perm.refl all) he fun b hb => ?_
    have heq : b.method = e.method := hb.1.trans he.1.symm
    rw [eq_of_spelled heq (fun h => hmethod (h ▸ heq.symm)) (fun h => hmethod (h ▸ rfl)) hb.2 he.2]

end

theorem find?_eq_of_between {order order' : List Endpoint} (horder : order.Perm all)
    (horder' : order'.Perm all) (h : Between order) (h' : Between order') (method : Method)
    (path : String) :
    (order.find? fun e => e.Fits method path) = order'.find? fun e => e.Fits method path := by
  rcases fits_cases method path with hs | ⟨a, hs⟩ | ⟨r, hr, hs⟩
  · have none (l : List Endpoint) : (l.find? fun e => e.Fits method path) = none :=
      List.find?_eq_none.mpr fun e _ he => Set.eq_empty_iff_forall_notMem.mp hs e
        (of_decide_eq_true he)
    rw [none order, none order']
  · have fits {b : Endpoint} : b.Fits method path ↔ b = a := Set.ext_iff.mp hs b
    have one {l : List Endpoint} (hl : l.Perm all) :
        (l.find? fun e => e.Fits method path) = some a :=
      find?_eq_some_of_first hl (fits.mpr rfl) fun b hb => by rw [fits.mp hb]
    rw [one horder, one horder']
  · have fits {b : Endpoint} : b.Fits method path ↔ b = uploads ∨ b = r := Set.ext_iff.mp hs b
    have huploads := fits.mpr (Or.inl rfl)
    have hfits := fits.mpr (Or.inr rfl)
    rcases List.mem_append.mp hr with hr | hr
    · rw [find?_of_mem_beforeUploads horder h hr hfits,
        find?_of_mem_beforeUploads horder' h' hr hfits]
    · rw [find?_of_mem_behindUploads horder h hr hfits huploads,
        find?_of_mem_behindUploads horder' h' hr hfits huploads]

/-! ### Paths that two endpoints share -/

/-- An end that makes a path one of the endpoint's. -/
def ending : Endpoint → String
  | lfsFetch => "/gitlab-lfs/objects/" ++ String.ofList (List.replicate 64 '0')
  | artifactsFetch => "/ci/api/v1/builds/" ++ "1" ++ "/artifacts"
  | r => r.template?.getD ""

/-- A path of the endpoint that is one of uploads as well. -/
def sharedPath (r : Endpoint) : String :=
  "/uploads/of" ++ ending r

theorem uploads_fits_sharedPath (r : Endpoint) : uploads.Fits .get (sharedPath r) := by
  refine ⟨rfl, "", "of" ++ ending r, ?_⟩
  rw [← String.append_assoc]
  rfl

theorem isOid_zeros : IsOid (String.ofList (List.replicate 64 '0')) := by
  refine ⟨?_, ?_⟩
  · rw [String.length_ofList, List.length_replicate]
  · intro c hc
    rw [String.toList_ofList] at hc
    obtain rfl := List.eq_of_mem_replicate hc
    exact .inl (isDigit_iff.mp rfl)

theorem isNumber_one : IsNumber "1" := by
  refine ⟨by decide, ?_⟩
  intro c hc
  obtain rfl : c = '1' := by simpa using hc
  exact isDigit_iff.mp rfl

theorem fits_sharedPath {r : Endpoint} (hr : r ∈ beforeUploads ++ behindUploads) :
    r.Fits .get (sharedPath r) := by
  refine ⟨by revert hr; cases r <;> decide, ?_⟩
  have literal {suffix : String} : ∃ q, "/uploads/of" ++ suffix = q ++ suffix := ⟨_, rfl⟩
  cases r with
  | infoRefs | archive | buildsDownload => exact literal
  | archiveZip | archiveTar | archiveTarGz | archiveTarBz2 =>
      exact ⟨"/uploads/of", by decide⟩
  | lfsFetch =>
      exact ⟨"/uploads/of", String.ofList (List.replicate 64 '0'), isOid_zeros,
        String.append_assoc.symm⟩
  | artifactsFetch => exact ⟨"/uploads/of", "1", isNumber_one, by decide⟩
  | uploadPack | receivePack | uploads | lfsStore | artifactsUpload | artifactsDelete =>
      exact absurd hr (by decide)

/-- An order that chooses like the table keeps the uploads in between, since each of the paths
that two endpoints share tells which of the two comes first. -/
theorem between_of_find?_eq {order : List Endpoint} (horder : order.Perm all)
    (h : ∀ method path, (order.find? fun e => e.Fits method path)
      = all.find? fun e => e.Fits method path) : Between order := by
  have earlier {path : String} {a b : Endpoint} (hne : a ≠ b) (hb : b.Fits .get path)
      (hfound : (all.find? fun e => e.Fits .get path) = some a) :
      order.idxOf a < order.idxOf b := by
    rw [← h] at hfound
    refine Nat.lt_of_le_of_ne (idxOf_le_of_find?_eq_some hfound (decide_eq_true hb)) fun heq => ?_
    exact hne ((List.idxOf_inj (horder.mem_iff.mpr (mem_all a))).mp heq)
  constructor
  · intro r hr
    have hne : r ≠ uploads := by
      rintro rfl
      exact absurd hr (by decide)
    exact earlier hne (uploads_fits_sharedPath r) (find?_of_mem_beforeUploads (List.Perm.refl all)
      between_all hr (fits_sharedPath (List.mem_append_left _ hr)))
  · intro r hr
    have hne : uploads ≠ r := by
      rintro rfl
      exact absurd hr (by decide)
    have hfits := fits_sharedPath (List.mem_append_right _ hr)
    exact earlier hne hfits (find?_of_mem_behindUploads (List.Perm.refl all) between_all hr hfits
      (uploads_fits_sharedPath r))

theorem name_injective : ∀ a ∈ all, ∀ b ∈ all, a.name = b.name → a = b := by
  decide

theorem route_injective {σ : Type} (guard : Guard → σ) (serve : Family → σ) :
    Function.Injective (route guard serve) := fun a b h =>
  name_injective a (mem_all a) b (mem_all b) (congrArg Route.name h)

end Endpoint

/-! ### The table -/

/-- The entries of the table that accept a request are the routes of the endpoints that fit. -/
theorem setOf_accepts_eq_image (capabilities : Capabilities) (method : Method) (path : String) :
    {r | r ∈ (gitRoutes capabilities).routes ∧ r.accepts method path = true} =
      Endpoint.route Authorize.handler capabilities '' {e | e.Fits method path} := by
  ext r
  constructor
  · intro hgiven
    obtain ⟨hmem, haccepts⟩ := hgiven
    obtain ⟨e, -, rfl⟩ := List.mem_map.mp hmem
    exact ⟨e, accepts_route_iff.mp haccepts, rfl⟩
  · intro hgiven
    obtain ⟨e, he, rfl⟩ := hgiven
    exact ⟨List.mem_map_of_mem (Endpoint.mem_all e), accepts_route_iff.mpr he⟩

/-- **The order of the routes matters around uploads alone.**  The entries that accept a request
are none, one, or uploads and one that may be met together with them; where a guarded entry
accepts, it is the one selected; and the orders of the routes that select alike are those that
keep uploads behind the endpoints that come before them and before those that come behind. -/
theorem order_matters_around_uploads (capabilities : Capabilities) :
    (∀ (method : Method) (path : String),
      let entries := {r | r ∈ (gitRoutes capabilities).routes ∧ r.accepts method path = true}
      entries = ∅ ∨ (∃ r, entries = {r}) ∨
        ∃ e ∈ Endpoint.beforeUploads ++ Endpoint.behindUploads,
          entries = {Endpoint.uploads.route Authorize.handler capabilities,
            e.route Authorize.handler capabilities}) ∧
    (∀ (method : Method) (path : String) (e : Endpoint), e.guard?.isSome →
      (e.route Authorize.handler capabilities).accepts method path = true →
        (gitRoutes capabilities).select? method path
          = some (e.route Authorize.handler capabilities)) ∧
    ∀ order : List Endpoint, order.Perm Endpoint.all →
      ((∀ (method : Method) (path : String),
        (Table.mk (order.map (Endpoint.route Authorize.handler capabilities))).select? method path
          = (gitRoutes capabilities).select? method path) ↔ Endpoint.Between order) := by
  set route := Endpoint.route Authorize.handler capabilities
  have select (order : List Endpoint) (method : Method) (path : String) :
      (Table.mk (order.map route)).select? method path =
        (order.find? fun e => e.Fits method path).map route := find?_map_route order
  refine ⟨fun method path => ?_, fun method path e hguard haccepts => ?_, fun order horder => ?_⟩
  · rw [setOf_accepts_eq_image]
    rcases Endpoint.fits_cases method path with hs | ⟨e, hs⟩ | ⟨e, he, hs⟩
    · exact Or.inl (by rw [hs, Set.image_empty])
    · exact Or.inr (Or.inl ⟨_, by rw [hs, Set.image_singleton]⟩)
    · exact Or.inr (Or.inr ⟨e, he, by rw [hs, Set.image_pair]⟩)
  · rw [accepts_route_iff] at haccepts
    calc (gitRoutes capabilities).select? method path
        = (Endpoint.all.find? fun e => e.Fits method path).map route := select _ method path
      _ = some (route e) := by rw [Endpoint.find?_all_of_guarded hguard haccepts, Option.map_some]
  · constructor
    · intro hselect
      refine Endpoint.between_of_find?_eq horder fun method path => ?_
      apply Option.map_injective (Endpoint.route_injective Authorize.handler capabilities)
      rw [← select order, hselect]
      exact select Endpoint.all method path
    · intro hbetween method path
      rw [select order, Endpoint.find?_eq_of_between horder (List.Perm.refl Endpoint.all) hbetween
        Endpoint.between_all]
      exact (select Endpoint.all method path).symm

/-- Reversed but for uploads and what they may be met with, the routes select as they do; with
uploads at the front they do not. -/
theorem order_matters_around_uploads_rearranged :
    (∀ (method : Method) (path : String),
      (Table.mk (([.artifactsDelete, .artifactsUpload, .lfsStore, .archiveTarBz2, .archiveTarGz,
        .archiveTar, .archiveZip, .archive, .receivePack, .infoRefs, .uploads, .artifactsFetch,
        .buildsDownload, .lfsFetch, .uploadPack] : List Endpoint).map
          (Endpoint.route Authorize.handler Capabilities.passThrough))).select? method path
        = (gitRoutes .passThrough).select? method path) ∧
    ¬∀ (method : Method) (path : String),
      (Table.mk ((Endpoint.uploads :: Endpoint.all.erase .uploads).map
          (Endpoint.route Authorize.handler Capabilities.passThrough))).select? method path
        = (gitRoutes .passThrough).select? method path := by
  have rearranged := (order_matters_around_uploads .passThrough).2.2
  refine ⟨(rearranged _ (by decide)).mpr ?_, fun h => ?_⟩
  · unfold Endpoint.Between
    decide
  · have hbetween := (rearranged _ (by decide)).mp h
    exact absurd (hbetween.1 .infoRefs (by decide)) (by decide)

end FrontDoor.Route
