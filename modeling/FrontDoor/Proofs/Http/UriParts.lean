/-
Texts that are put together from the parts of a URI.

A scheme of the web, an authority, a path and a query may be written one after the other.  If no
part holds a character that would end it (`Divided`), reading the text takes it apart at the same
places: `ofText_eq_ok_iff` says so, and when it is read at all.  So a URI of this kind is read
again from what it is written down as (`Divided.ofText_text`).
-/
import FrontDoor.Proofs.Http.UriReader

namespace FrontDoor.Http.Uri

open Text (Stops)

variable {s rest : List Char} {c : Char} {text : String} {u v : Uri}

/-! ### Schemes of the web -/

/-- The text is a scheme of the web in whatever case. -/
def IsWeb (scheme : List Char) : Prop :=
  scheme.map Char.toLower = "http".toList ∨ scheme.map Char.toLower = "https".toList

/-- A scheme of the web in front of a text is its scheme, in lower case. -/
theorem scheme_of_isWeb {front : List Char} (h : IsWeb front) (rest : List Char) :
    scheme (front ++ "://".toList ++ rest) =
      .ok (some (String.ofList (front.map Char.toLower), rest)) := by
  have hbehind : "://".toList.map Char.toLower = "://".toList := by decide
  rcases h with h | h
  · have hhttp : afterIgnoringCase? "http://".toList (front ++ "://".toList ++ rest) =
        some rest :=
      afterIgnoringCase?_eq_some_iff.mpr ⟨_, rfl, by rw [List.map_append, h, hbehind]; rfl⟩
    rw [scheme, hhttp, h]
    rfl
  · have hhttps : afterIgnoringCase? "https://".toList (front ++ "://".toList ++ rest) =
        some rest :=
      afterIgnoringCase?_eq_some_iff.mpr ⟨_, rfl, by rw [List.map_append, h, hbehind]; rfl⟩
    have hhttp : afterIgnoringCase? "http://".toList (front ++ "://".toList ++ rest) = none := by
      rw [Option.eq_none_iff_forall_ne_some]
      intro other hother
      obtain ⟨start, hsame, hstart⟩ := afterIgnoringCase?_eq_some_iff.mp hother
      have hlower := congrArg (List.map Char.toLower) hsame
      rw [List.map_append, List.map_append, List.map_append, h, hstart] at hlower
      simp at hlower
    rw [scheme, hhttp, hhttps, h]
    rfl

/-! ### Path and query -/

theorem endsPath_of_isPathChar (h : isPathChar c = true) : endsPath c = false := by
  rw [Bool.eq_false_iff]
  intro hends
  rcases Bool.or_eq_true_iff.mp hends with hc | hc
  · rw [beq_iff_eq.mp hc] at h
    cases h
  · rw [beq_iff_eq.mp hc] at h
    cases h

theorem ne_hash_of_isQueryChar (h : isQueryChar c = true) : c ≠ '#' := by
  rintro rfl
  cases h

/-- The query is read as it is written. -/
theorem query_queryText (hquery : ∀ q ∈ u.query?, '#' ∉ q.toList) :
    query u.queryText.toList =
      if ∀ q ∈ u.query?, ∀ c ∈ q.toList, isQueryChar c = true then .ok u.query?
      else .error .invalidCharacter := by
  unfold queryText
  cases hq : u.query? with
  | none => simp [query]
  | some q =>
      have hrun : q.toList.takeWhile (· != '#') = q.toList := by
        rw [List.takeWhile_eq_self_iff]
        intro c hc
        rw [bne_iff_ne]
        rintro rfl
        exact hquery q hq hc
      simp [query, hrun]

/-- Path and query that are written one after the other are read as they are. -/
theorem pathAndQuery_append (hpath : ∀ c ∈ u.path.toList, endsPath c = false)
    (hquery : ∀ q ∈ u.query?, '#' ∉ q.toList) :
    pathAndQuery (u.path.toList ++ u.queryText.toList) =
      if (∀ c ∈ u.path.toList, isPathChar c = true) ∧
          ∀ q ∈ u.query?, ∀ c ∈ q.toList, isQueryChar c = true then
        .ok (u.path, u.query?)
      else .error .invalidCharacter := by
  have hall : ∀ c ∈ u.path.toList, (!endsPath c) = true := by simpa using hpath
  have hstops : Stops (!endsPath ·) u.queryText.toList := by
    unfold queryText
    cases u.query? with
    | none => exact Text.stops_nil
    | some q =>
        rw [String.toList_append]
        exact Text.stops_cons (by decide)
  unfold pathAndQuery
  rw [Text.takeWhile_append_of_all hall hstops, Text.dropWhile_append_of_all hall hstops,
    query_queryText hquery]
  by_cases hp : ∀ c ∈ u.path.toList, isPathChar c = true
  · by_cases hq : ∀ q ∈ u.query?, ∀ c ∈ q.toList, isQueryChar c = true
    · rw [if_pos (List.all_eq_true.mpr hp), if_pos hq, if_pos ⟨hp, hq⟩, String.ofList_toList]
      rfl
    · rw [if_pos (List.all_eq_true.mpr hp), if_neg hq, if_neg fun h => hq h.2]
      rfl
  · rw [if_neg fun h => hp (List.all_eq_true.mp h), if_neg fun h => hp h.1]

/-! ### The whole -/

/-- The URI has a scheme of the web, an authority and a path, and no part holds a character that
would end it. -/
structure Divided (u : Uri) (scheme authority : String) : Prop where
  scheme_eq : u.scheme? = some scheme
  web : scheme = "http" ∨ scheme = "https"
  authority_eq : u.authority? = some authority
  authority_ne : authority ≠ ""
  authority_free : ∀ c ∈ authority.toList, endsAuthority c = false
  path_slash : ∃ rest, u.path = "/" ++ rest
  path_free : ∀ c ∈ u.path.toList, endsPath c = false
  query_free : ∀ q ∈ u.query?, '#' ∉ q.toList

/-- Such a URI is written down as its parts one after the other. -/
theorem Divided.text_eq {scheme authority : String} (hu : u.Divided scheme authority) :
    u.text = scheme ++ "://" ++ authority ++ u.path ++ u.queryText := by
  have hshown : u.shownPath = u.path := by
    obtain ⟨rest, hpath⟩ := hu.path_slash
    rw [shownPath, hpath, if_neg (by simp)]
  simp [text, hu.scheme_eq, hu.authority_eq, hshown]

/-- A text of two characters or more that does not begin with a slash is read in full. -/
theorem ofText_eq_absolute {d : Char} (htext : text.toList = c :: d :: rest) (hc : c ≠ '/') :
    ofText text =
      if text.utf8ByteSize > maxSize then .error .tooLong else absolute (c :: d :: rest) := by
  unfold ofText
  rw [htext]
  split
  · rfl
  · split <;> simp_all

/-- A text with a scheme of the web is read as one. -/
theorem ofText_of_isWeb {front : List Char} (hfront : IsWeb front)
    (htext : text.toList = front ++ "://".toList ++ rest) :
    ofText text =
      if text.utf8ByteSize > maxSize then .error .tooLong
      else afterScheme (String.ofList (front.map Char.toLower)) rest := by
  obtain ⟨c, d, behind, rfl, hc⟩ : ∃ c d behind, front = c :: d :: behind ∧ c.toLower = 'h' := by
    rcases hfront with h | h
    · obtain ⟨c, _, rfl, hc, h⟩ := List.map_eq_cons_iff.mp h
      obtain ⟨d, behind, rfl, -, -⟩ := List.map_eq_cons_iff.mp h
      exact ⟨c, d, behind, rfl, hc⟩
    · obtain ⟨c, _, rfl, hc, h⟩ := List.map_eq_cons_iff.mp h
      obtain ⟨d, behind, rfl, -, -⟩ := List.map_eq_cons_iff.mp h
      exact ⟨c, d, behind, rfl, hc⟩
  have hslash : c ≠ '/' := by
    rintro rfl
    cases hc
  rw [ofText_eq_absolute (by rw [htext]; rfl) hslash]
  have habsolute : absolute (c :: d :: behind ++ "://".toList ++ rest) =
      afterScheme (String.ofList ((c :: d :: behind).map Char.toLower)) rest := by
    rw [absolute, scheme_of_isWeb hfront]
    rfl
  rw [← habsolute]
  rfl

/-- Behind the scheme the parts are read as they are. -/
theorem afterScheme_append {scheme authority : String} (hu : u.Divided scheme authority) :
    afterScheme scheme (authority.toList ++ (u.path.toList ++ u.queryText.toList)) = .ok v ↔
      u.WellFormed ∧ v = u := by
  have hall : ∀ c ∈ authority.toList, (!endsAuthority c) = true := by simpa using hu.authority_free
  have hstops : Stops (!endsAuthority ·) (u.path.toList ++ u.queryText.toList) := by
    obtain ⟨rest, hpath⟩ := hu.path_slash
    rw [hpath, String.toList_append]
    exact Text.stops_cons (by decide)
  rw [afterScheme_eq_ok_iff, Text.takeWhile_append_of_all hall hstops,
    Text.dropWhile_append_of_all hall hstops, pathAndQuery_append hu.path_free hu.query_free,
    String.ofList_toList]
  constructor
  · intro hgiven
    obtain ⟨hcheck, -, path, query?, hrest, rfl⟩ := hgiven
    split at hrest
    · rename_i hparts
      cases hrest
      obtain ⟨hpath, hquery⟩ := hparts
      refine ⟨⟨?_, hpath, hquery⟩, ?_⟩
      · intro a ha
        rw [hu.authority_eq] at ha
        obtain rfl := Option.some.inj ha
        exact hcheck
      · rw [← hu.scheme_eq, ← hu.authority_eq]
    · cases hrest
  · intro hgiven
    obtain ⟨hwell, rfl⟩ := hgiven
    refine ⟨hwell.authority _ hu.authority_eq, ?_, v.path, v.query?,
      if_pos ⟨hwell.path, hwell.query⟩, ?_⟩
    · exact mt String.toList_eq_nil_iff.mp hu.authority_ne
    · rw [← hu.scheme_eq, ← hu.authority_eq]

/-- **A text that is put together from parts is read as these parts**, if it is read at all: it is
when it is not too long and its parts consist of the characters of such parts. -/
theorem ofText_eq_ok_iff {scheme authority : String} (hu : u.Divided scheme authority)
    {front : String} (hfront : front.toLower = scheme) :
    ofText (front ++ "://" ++ authority ++ u.path ++ u.queryText) = .ok v ↔
      (front ++ "://" ++ authority ++ u.path ++ u.queryText).utf8ByteSize ≤ maxSize ∧
        u.WellFormed ∧ v = u := by
  have hlower : front.toList.map Char.toLower = scheme.toList := by
    rw [← hfront, Text.toList_toLower]
  have hweb : IsWeb front.toList := by
    rw [IsWeb, hlower]
    exact hu.web.imp (congrArg String.toList) (congrArg String.toList)
  have htext : (front ++ "://" ++ authority ++ u.path ++ u.queryText).toList =
      front.toList ++ "://".toList ++
        (authority.toList ++ (u.path.toList ++ u.queryText.toList)) := by
    simp only [String.toList_append, List.append_assoc]
  rw [ofText_of_isWeb hweb htext, hlower, String.ofList_toList]
  split
  · rename_i hsize
    constructor
    · intro h
      cases h
    · intro hgiven
      exact absurd hgiven.1 (Nat.not_le.mpr hsize)
  · rename_i hsize
    rw [afterScheme_append hu, and_iff_right (Nat.not_lt.mp hsize)]

/-- Such a URI is read again from what it is written down as. -/
theorem Divided.ofText_text {scheme authority : String} (hu : u.Divided scheme authority)
    (hwell : u.WellFormed) (hsize : u.text.utf8ByteSize ≤ maxSize) : ofText u.text = .ok u := by
  have hlower : scheme.toLower = scheme := by
    rcases hu.web with rfl | rfl <;> exact Text.toLower_eq_self (by simp)
  rw [hu.text_eq] at hsize ⊢
  exact (ofText_eq_ok_iff hu hlower).mpr ⟨hsize, hwell, rfl⟩

end FrontDoor.Http.Uri
