/-
The two forms of a request.

A client may name the authority it wants in the URI, or leave the URI at a path and say the
authority in a host field.  What is read off the text of the first kind is the second kind's path
and query with a scheme and the authority beside them (`Uri.ofText_behind`).  `AbsoluteOf` relates
two requests of the two kinds.  A delegated request is made of the path and query and of the
fields with the host put in, and there the two have become the same (`request_absoluteOf`): the
host that the one carries among its fields is the one that the other has in its URI, it is put at
the end in either case, and no other field is touched.
-/
import FrontDoor.Proofs.Delegation
import FrontDoor.Proofs.Http.UriFront

namespace FrontDoor

open Http

/-! ### Reading the two forms -/

namespace Http.Uri

open Text (Stops)

/-- A text of a scheme and more is read behind the scheme. -/
theorem exists_afterScheme_of_ofText {scheme text : String} {rest : List Char} {u : Uri}
    (hscheme : ∀ c ∈ scheme.toList, isSchemeChar c = true) (hrest : rest ≠ [])
    (htext : text.toList = scheme.toList ++ "://".toList ++ rest) (h : ofText text = .ok u) :
    ∃ name, afterScheme name rest = .ok u := by
  obtain ⟨c, d, s, hcs, hc⟩ : ∃ c d s, text.toList = c :: d :: s ∧ c ≠ '/' := by
    rw [htext]
    rcases hfront : scheme.toList with _ | ⟨c, _ | ⟨d, front⟩⟩
    · exact ⟨_, _, _, rfl, by decide⟩
    all_goals
      exact ⟨_, _, _, rfl, ne_slash_of_isSchemeChar (hscheme c (by simp [hfront]))⟩
  rw [ofText_eq_absolute hcs hc] at h
  split at h
  · cases h
  · rw [← hcs, htext, absolute, scheme_eq hscheme hrest] at h
    split_ifs at h
    · exact ⟨_, h⟩
    · exact ⟨_, h⟩
    · cases h
    · exact ⟨_, h⟩

/-- **Behind a scheme and an authority a path and query are read as they are on their own.** -/
theorem ofText_behind {scheme authority target : String} {u : Uri}
    (hscheme : ∀ c ∈ scheme.toList, isSchemeChar c = true)
    (hauthority : ∀ c ∈ authority.toList, endsAuthority c = false)
    (htarget : ∃ rest, target = "/" ++ rest)
    (h : ofText (scheme ++ "://" ++ authority ++ target) = .ok u) :
    ∃ name path query?, (∃ rest, path = "/" ++ rest) ∧
      u = { scheme? := some name, authority? := some authority, path, query? } ∧
      ofText target = .ok { path, query? } := by
  obtain ⟨rest, rfl⟩ := htarget
  have htarget : ("/" ++ rest).toList = '/' :: rest.toList := by simp
  have hbehind : authority.toList ++ ("/" ++ rest).toList ≠ [] := by simp
  obtain ⟨name, hafter⟩ := exists_afterScheme_of_ofText hscheme hbehind (by simp) h
  have hall : ∀ c ∈ authority.toList, (!endsAuthority c) = true := by simpa using hauthority
  have hstops : Stops (!endsAuthority ·) ("/" ++ rest).toList := by
    rw [htarget]
    exact Text.stops_cons (by decide)
  obtain ⟨-, -, path, query?, hread, rfl⟩ := afterScheme_eq_ok_iff.mp hafter
  rw [Text.dropWhile_append_of_all hall hstops, htarget] at hread
  rw [Text.takeWhile_append_of_all hall hstops, String.ofList_toList]
  refine ⟨name, path, query?, ?_, rfl, ?_⟩
  · obtain ⟨hpath, -⟩ := pathAndQuery_eq_ok hread
    refine ⟨String.ofList (rest.toList.takeWhile (!endsPath ·)), ?_⟩
    rw [← String.toList_inj, hpath]
    simp [endsPath]
  · unfold ofText at h ⊢
    split at h
    · cases h
    · rename_i hsize
      simp only [String.utf8ByteSize_append] at hsize
      rw [if_neg (by rw [String.utf8ByteSize_append]; omega), htarget]
      simp only [hread]
      rfl

end Http.Uri

/-! ### Two requests of the two forms -/

/-- The first request has in its URI the authority that the second one has in a host field, and
otherwise they are the same, except for the scheme of the first. -/
structure Http.Request.AbsoluteOf (absolute origin : Request) (authority : String) : Prop where
  method : absolute.method = origin.method
  target : absolute.uri.target = origin.uri.target
  shownPath : absolute.uri.shownPath = origin.uri.shownPath
  named : absolute.uri.authority? = some authority
  sendable : isHeaderValue (Bytes.ofString authority) = true
  host : origin.headers.values "host" = [Bytes.ofString authority]
  headers : absolute.headers = origin.headers.without "host"
  body : absolute.body = origin.body

/-- A request with a complete URI and one with the path and query of it and the authority in a
host field are the same request in the two forms. -/
theorem Http.Request.absoluteOf {scheme authority target : String} {uri : Uri}
    (hscheme : ∀ c ∈ scheme.toList, Uri.isSchemeChar c = true)
    (hauthority : ∀ c ∈ authority.toList, Uri.endsAuthority c = false)
    (htarget : ∃ rest, target = "/" ++ rest)
    (hread : Uri.ofText (scheme ++ "://" ++ authority ++ target) = .ok uri)
    (absolute : Request) (front back : Headers) (huri : absolute.uri = uri)
    (hheaders : absolute.headers = front ++ back) (hhost : absolute.headers.values "host" = []) :
    ∃ uri', Uri.ofText target = .ok uri' ∧
      absolute.AbsoluteOf
        { absolute with
          uri := uri'
          headers := front ++ ⟨"host", Bytes.ofString authority⟩ :: back } authority := by
  subst huri
  have hwell := Uri.wellFormed_of_ofText hread
  obtain ⟨name, path, query?, ⟨rest, hpath⟩, huri, hread'⟩ :=
    Uri.ofText_behind hscheme hauthority htarget hread
  have hnamed : absolute.uri.authority? = some authority := by rw [huri]
  have hfront : front.values "host" = [] ∧ back.values "host" = [] := by
    rwa [hheaders, Headers.values_append, List.append_eq_nil_iff] at hhost
  refine ⟨_, hread',
    { method := rfl
      target := ?_
      shownPath := ?_
      named := hnamed
      sendable := hwell.isHeaderValue_authority hnamed
      host := ?_
      headers := ?_
      body := rfl }⟩
  · rw [huri]
    rfl
  · simp [huri, Uri.shownPath, hpath]
  · show Headers.values (front ++ ([⟨"host", Bytes.ofString authority⟩] ++ back)) "host" = _
    rw [Headers.values_append, Headers.values_append, hfront.1, hfront.2]
    rfl
  · have hnone : Headers.without (⟨"host", Bytes.ofString authority⟩ :: back) "host" = back := by
      rw [Headers.without, List.filter_cons_of_neg (by simp)]
      exact Headers.without_of_values hfront.2
    show absolute.headers = Headers.without (front ++ _) "host"
    rw [hheaders, Headers.without_append, hnone, Headers.without_of_values hfront.1]

namespace Delegation

variable {absolute origin : Request} {authority : String}

theorem clientHost?_absolute (h : absolute.AbsoluteOf origin authority) :
    clientHost? absolute = some (Bytes.ofString authority) := by
  have hnone : absolute.headers.first? "host" = none := by
    rw [h.headers, Headers.first?, Headers.values_without, if_pos rfl]
    rfl
  simp [clientHost?, hnone, h.named, h.sendable]

theorem clientHost?_origin (h : absolute.AbsoluteOf origin authority) :
    clientHost? origin = some (Bytes.ofString authority) := by
  have hsome : origin.headers.first? "host" = some (Bytes.ofString authority) := by
    rw [Headers.first?, h.host]
    rfl
  simp [clientHost?, hsome]

/-- **A request in either form is delegated as the same request, or for the same reason not at
all.** -/
theorem request_absoluteOf (h : absolute.AbsoluteOf origin authority) (d : Delegation)
    (body? : Option Bytes) (suffix : String) :
    d.request absolute body? suffix = d.request origin body? suffix := by
  have haddress : d.address absolute suffix = d.address origin suffix := by
    rw [address, address, h.target]
  have hfields : d.fields absolute body? = d.fields origin body? := by
    unfold fields
    rw [clientHost?_absolute h, clientHost?_origin h]
    simp only [Headers.set, h.headers]
    cases body? <;> simp [Headers.without_withoutAll, Headers.without_without]
  rw [request, request, haddress, h.method, hfields]

end Delegation

end FrontDoor
