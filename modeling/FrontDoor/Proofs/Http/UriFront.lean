/-
The front of a text that is read as a URI.

Not every front of such a text is a URI itself: it may end within the scheme, or in an authority
that is none yet.  Once the authority is over, though, nothing more can go wrong but in the path
or the query, and whatever is allowed in all of them is allowed in their fronts.

When the authority is over is told by slashes.  The first two in the text are those behind the
scheme, since no scheme has a slash and they follow each other, so a front with three of them
holds the whole authority (`ofText_front`).
-/
import FrontDoor.Proofs.Http.UriParts

namespace FrontDoor.Http.Uri

open Text (Stops stops_cons map_eq_ok_iff)

variable {s t rest : List Char} {front : List Char} {name : String} {u : Uri}

/-! ### Path and query -/

/-- A run that is allowed is so in its front. -/
theorem all_takeWhile_front {p allowed : Char → Bool}
    (h : ((s ++ t).takeWhile p).all allowed = true) : (s.takeWhile p).all allowed = true := by
  rw [List.all_eq_true] at h ⊢
  exact fun c hc => h c ((Text.takeWhile_prefix_append p s t).subset hc)

theorem query_front {query? : Option String} (h : query (s ++ t) = .ok query?) (hs : s ≠ []) :
    ∃ query?, query s = .ok query? := by
  obtain ⟨c, s, rfl⟩ := List.exists_cons_of_ne_nil hs
  by_cases hc : c = '?'
  · subst hc
    simp only [query, List.cons_append] at h ⊢
    split at h
    · rename_i hall
      exact ⟨_, if_pos (all_takeWhile_front hall)⟩
    · cases h
  · exact ⟨none, by simp [query, hc]⟩

theorem pathAndQuery_front {r : String × Option String} (h : pathAndQuery (s ++ t) = .ok r) :
    ∃ r, pathAndQuery s = .ok r := by
  simp only [pathAndQuery] at h ⊢
  split at h
  · rename_i hall
    obtain ⟨query?, hquery, -⟩ := map_eq_ok_iff.mp h
    rw [if_pos (all_takeWhile_front hall)]
    by_cases hrest : s.dropWhile (!endsPath ·) = []
    · rw [hrest]
      exact ⟨_, rfl⟩
    · have hdrop : (s ++ t).dropWhile (!endsPath ·) = s.dropWhile (!endsPath ·) ++ t := by
        rw [List.dropWhile_append, if_neg (mt List.isEmpty_iff.mp hrest)]
      rw [hdrop] at hquery
      obtain ⟨query?, hquery⟩ := query_front hquery hrest
      exact ⟨_, map_eq_ok_iff.mpr ⟨query?, hquery, rfl⟩⟩
  · cases h

/-! ### Scheme and authority -/

/-- Behind a scheme the reader goes on as it does where the text ends sooner, if the authority is
over by then. -/
theorem afterScheme_front (hslash : '/' ∈ s) (h : afterScheme name (s ++ t) = .ok u) :
    ∃ u, afterScheme name s = .ok u ∧ u.scheme?.isSome = true ∧ u.authority?.isSome = true := by
  obtain ⟨hcheck, hne, path, query?, hrest, -⟩ := afterScheme_eq_ok_iff.mp h
  obtain ⟨htake, hdrop⟩ := Text.run_append_of_mem (p := (!endsAuthority ·)) (t := t) hslash rfl
  rw [htake] at hcheck hne
  rw [hdrop] at hrest
  obtain ⟨⟨path, query?⟩, hrest⟩ := pathAndQuery_front hrest
  exact ⟨_, afterScheme_eq_ok_iff.mpr ⟨hcheck, hne, path, query?, hrest, rfl⟩, rfl, rfl⟩

theorem ne_colon_of_isSchemeChar {c : Char} (h : isSchemeChar c = true) : c ≠ ':' := by
  rintro rfl
  cases h

theorem ne_slash_of_isSchemeChar {c : Char} (h : isSchemeChar c = true) : c ≠ '/' := by
  rintro rfl
  cases h

/-- A word that is found in front of a colon and two slashes is all that stands there. -/
theorem eq_word_of_afterIgnoringCase? (hfront : ∀ c ∈ front, isSchemeChar c = true)
    {word : List Char} (hword : ':' ∉ word)
    (h : afterIgnoringCase? (word ++ "://".toList) (front ++ "://".toList ++ rest) = some t) :
    front.map Char.toLower = word := by
  obtain ⟨front', hsame, rfl⟩ := exists_word_of_afterIgnoringCase? h
  have hcolon : ':' ∉ front := fun hc => ne_colon_of_isSchemeChar (hfront ':' hc) rfl
  have hcolon' : ':' ∉ front' := fun hc => hword (List.mem_map_of_mem (f := Char.toLower) hc)
  have hsplit : front ++ ':' :: ('/' :: '/' :: rest) = front' ++ ':' :: ('/' :: '/' :: t) := by
    simpa using hsame
  rw [(Text.append_cons_inj hcolon hcolon' hsplit).1]

theorem otherScheme_eq (hfront : ∀ c ∈ front, isSchemeChar c = true) (hrest : rest ≠ []) :
    otherScheme (front ++ "://".toList ++ rest) =
      if front.length > maxSchemeLength then .error .schemeTooLong
      else .ok (some (String.ofList front, rest)) := by
  have hstops : Stops isSchemeChar ("://".toList ++ rest) := stops_cons rfl
  have hlength : ¬(front ++ ("://".toList ++ rest)).length ≤ 3 := by
    have := List.length_pos_iff.mpr hrest
    simp only [List.length_append]
    show ¬front.length + (3 + rest.length) ≤ 3
    omega
  rw [List.append_assoc, otherScheme, Text.dropWhile_append_of_all hfront hstops,
    Text.takeWhile_append_of_all hfront hstops]
  show (if _ then _ else _) = _
  rw [if_neg hlength]
  rfl

/-- Which scheme a text has is told by the characters in front of the colon and two slashes. -/
theorem scheme_eq (hfront : ∀ c ∈ front, isSchemeChar c = true) (hrest : rest ≠ []) :
    scheme (front ++ "://".toList ++ rest) =
      if front.map Char.toLower = "http".toList then .ok (some ("http", rest))
      else if front.map Char.toLower = "https".toList then .ok (some ("https", rest))
      else if front.length > maxSchemeLength then .error .schemeTooLong
      else .ok (some (String.ofList front, rest)) := by
  by_cases hhttp : front.map Char.toLower = "http".toList
  · rw [if_pos hhttp, scheme_of_isWeb (.inl hhttp), hhttp]
    rfl
  rw [if_neg hhttp]
  by_cases hhttps : front.map Char.toLower = "https".toList
  · rw [if_pos hhttps, scheme_of_isWeb (.inr hhttps), hhttps]
    rfl
  rw [if_neg hhttps, ← otherScheme_eq hfront hrest]
  have hnone {word : List Char} (hword : ':' ∉ word) (hne : front.map Char.toLower ≠ word) :
      afterIgnoringCase? (word ++ "://".toList) (front ++ "://".toList ++ rest) = none := by
    rw [Option.eq_none_iff_forall_ne_some]
    exact fun t h => hne (eq_word_of_afterIgnoringCase? hfront hword h)
  have hhttp : afterIgnoringCase? "http://".toList _ = none := hnone (by simp) hhttp
  have hhttps : afterIgnoringCase? "https://".toList _ = none := hnone (by simp) hhttps
  rw [scheme, hhttp, hhttps]

/-- So it has the same scheme where it ends sooner. -/
theorem scheme_front (hfront : ∀ c ∈ front, isSchemeChar c = true) (hrest : rest ≠ [])
    (h : scheme (front ++ "://".toList ++ (rest ++ t)) = .ok (some (name, rest ++ t))) :
    scheme (front ++ "://".toList ++ rest) = .ok (some (name, rest)) := by
  rw [scheme_eq hfront (List.append_ne_nil_of_left_ne_nil hrest t)] at h
  rw [scheme_eq hfront hrest]
  split_ifs at h ⊢ with hhttp hhttps hlong
  · cases h
    rfl
  · cases h
    rfl
  · cases h
    rfl

/-- Three slashes hold a scheme and the whole authority behind it. -/
theorem exists_rest_of_slashes {behind : List Char} (hfront : ∀ c ∈ front, isSchemeChar c = true)
    (hslashes : 3 ≤ s.count '/') (h : s ++ t = front ++ "://".toList ++ behind) :
    ∃ rest, s = front ++ "://".toList ++ rest ∧ behind = rest ++ t ∧ '/' ∈ rest := by
  have hnone : front.count '/' = 0 :=
    List.count_eq_zero.mpr fun hc => ne_slash_of_isSchemeChar (hfront '/' hc) rfl
  rcases List.append_eq_append_iff.mp h with ⟨more, hmore, rfl⟩ | ⟨rest, rfl, rfl⟩
  · have htwo := congrArg (List.count '/') hmore
    rw [List.count_append, List.count_append, hnone] at htwo
    simp at htwo
    omega
  · refine ⟨rest, rfl, rfl, ?_⟩
    rw [List.count_append, List.count_append, hnone] at hslashes
    by_contra hslash
    rw [List.count_eq_zero.mpr hslash] at hslashes
    simp at hslashes

/-- **A text with three slashes is read as a complete URI if a text is that it is the front of.** -/
theorem ofText_front {text more : String} (hslashes : 3 ≤ text.toList.count '/')
    (h : ofText (text ++ more) = .ok u) (hscheme : u.scheme?.isSome = true) :
    ∃ u, ofText text = .ok u ∧ u.scheme?.isSome = true ∧ u.authority?.isSome = true := by
  obtain ⟨name, behind, hname, hafter⟩ := exists_scheme_of_ofText h hscheme
  obtain ⟨front, htext, hfront⟩ := exists_front_of_scheme hname
  obtain ⟨rest, hrest, rfl, hslash⟩ :=
    exists_rest_of_slashes hfront hslashes (String.toList_append.symm.trans htext)
  have hne : rest ≠ [] := List.ne_nil_of_mem hslash
  rw [htext] at hname
  have hname := scheme_front hfront hne hname
  rw [← hrest] at hname
  obtain ⟨v, hv, hcomplete⟩ := afterScheme_front hslash hafter
  refine ⟨v, ?_, hcomplete⟩
  have hsize : ¬text.utf8ByteSize > maxSize := by
    intro hsize
    unfold ofText at h
    rw [if_pos (by rw [String.utf8ByteSize_append]; omega)] at h
    cases h
  obtain ⟨c, d, s, hcs, hc⟩ : ∃ c d s, text.toList = c :: d :: s ∧ c ≠ '/' := by
    cases front with
    | nil => exact ⟨_, _, _, hrest, by decide⟩
    | cons c front =>
        have hc : c ≠ '/' := ne_slash_of_isSchemeChar (hfront c (by simp))
        cases front with
        | nil => exact ⟨_, _, _, hrest, hc⟩
        | cons d front => exact ⟨_, _, _, hrest, hc⟩
  rw [ofText_eq_absolute hcs hc, if_neg hsize, ← hcs, absolute, hname]
  exact hv

end FrontDoor.Http.Uri
