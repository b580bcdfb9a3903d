/-
What a text that spells a URI says, part by part.

Reading a URI ends in one of four ways, and `Spelling` lists them with what was found out on the
way there.  What all URIs that are read have in common comes from that list: their parts consist
of the characters of such parts (`wellFormed_of_ofText`), a path begins with a slash, if it is not
the asterisk and there is one at all (`path_of_ofText`), and a scheme stands in front of the text
(`exists_scheme_of_ofText`, `exists_front_of_scheme`).
-/
import FrontDoor.Http.Header
import FrontDoor.Http.UriReader
import FrontDoor.Proofs.Text.Ascii
import FrontDoor.Proofs.Text.Runs

namespace FrontDoor.Http.Uri

open Text (Stops bind_eq_ok_iff)

variable {s rest : List Char} {c : Char} {text name : String} {u : Uri}

/-! ### The scheme -/

theorem afterIgnoringCase?_eq_some_iff {start : List Char} :
    afterIgnoringCase? start s = some rest ↔
      ∃ front, s = front ++ rest ∧ front.map Char.toLower = start := by
  induction start generalizing s with
  | nil => simp [afterIgnoringCase?, eq_comm]
  | cons a start ih =>
      cases s with
      | nil => simp [afterIgnoringCase?]
      | cons c s =>
          rw [afterIgnoringCase?]
          by_cases hc : c.toLower = a
          · rw [if_pos (beq_iff_eq.mpr hc), ih]
            constructor
            · intro hgiven
              obtain ⟨front, rfl, rfl⟩ := hgiven
              exact ⟨c :: front, rfl, by rw [List.map_cons, hc]⟩
            · intro hgiven
              obtain ⟨_ | ⟨d, front⟩, hs, hmap⟩ := hgiven
              · cases hmap
              · obtain ⟨rfl, rfl⟩ := List.cons.inj hs
                exact ⟨front, rfl, (List.cons.inj hmap).2⟩
          · rw [if_neg (by simpa using hc)]
            constructor
            · intro h
              cases h
            · intro hgiven
              obtain ⟨_ | ⟨d, front⟩, hs, hmap⟩ := hgiven
              · cases hmap
              · obtain ⟨rfl, rfl⟩ := List.cons.inj hs
                exact absurd (List.cons.inj hmap).1 hc

/-- A word, a colon and two slashes are found as the word in whatever case and the three characters
themselves. -/
theorem exists_word_of_afterIgnoringCase? {word : List Char}
    (h : afterIgnoringCase? (word ++ "://".toList) s = some rest) :
    ∃ front, s = front ++ "://".toList ++ rest ∧ front.map Char.toLower = word := by
  obtain ⟨start, rfl, hstart⟩ := afterIgnoringCase?_eq_some_iff.mp h
  obtain ⟨front, behind, rfl, hfront, hbehind⟩ := List.map_eq_append_iff.mp hstart
  have hbehind : behind = "://".toList := by
    obtain ⟨a, behind, rfl, ha, hmap⟩ := List.map_eq_cons_iff.mp hbehind
    obtain ⟨b, behind, rfl, hb, hmap⟩ := List.map_eq_cons_iff.mp hmap
    obtain ⟨d, behind, rfl, hd, hmap⟩ := List.map_eq_cons_iff.mp hmap
    rw [Text.eq_of_toLower_eq ha (by decide), Text.eq_of_toLower_eq hb (by decide),
      Text.eq_of_toLower_eq hd (by decide), List.map_eq_nil_iff.mp hmap]
    rfl
  exact ⟨front, by rw [hbehind], hfront⟩

/-- Letters are among the characters of a scheme. -/
theorem isSchemeChar_of_toLower (h : c.toLower.isLower = true) : isSchemeChar c = true := by
  rw [Char.isLower_toLower_eq_isAlpha] at h
  simp [isSchemeChar, Char.isAlphanum, h]

theorem exists_front_of_afterIgnoringCase? (word : List Char)
    (hword : ∀ c ∈ word, c.isLower = true)
    (h : afterIgnoringCase? (word ++ "://".toList) s = some rest) :
    ∃ front, s = front ++ "://".toList ++ rest ∧ ∀ c ∈ front, isSchemeChar c = true := by
  obtain ⟨front, hs, hfront⟩ := exists_word_of_afterIgnoringCase? h
  refine ⟨front, hs, ?_⟩
  intro c hc
  exact isSchemeChar_of_toLower (hword _ (by rw [← hfront]; exact List.mem_map_of_mem hc))

/-- What is read as a scheme stands in front of the text, before a colon and two slashes. -/
theorem exists_front_of_scheme (h : scheme s = .ok (some (name, rest))) :
    ∃ front, s = front ++ "://".toList ++ rest ∧ ∀ c ∈ front, isSchemeChar c = true := by
  unfold scheme at h
  split at h
  · rename_i hhttp
    cases h
    exact exists_front_of_afterIgnoringCase? "http".toList (by simp) hhttp
  split at h
  · rename_i hhttps
    cases h
    exact exists_front_of_afterIgnoringCase? "https".toList (by simp) hhttps
  unfold otherScheme at h
  split at h
  · rename_i behind hbehind
    dsimp only at h
    split at h
    · cases h
    split at h
    · cases h
    cases h
    refine ⟨s.takeWhile isSchemeChar, ?_, fun c hc => List.mem_takeWhile_imp hc⟩
    rw [List.append_assoc]
    exact (List.takeWhile_append_dropWhile (p := isSchemeChar) (l := s)).symm.trans
      (by rw [hbehind]; rfl)
  · cases h

/-! ### The authority -/

theorem visible_of_isAuthorityChar (h : isAuthorityChar c = true) :
    0x20 < c.toNat ∧ c.toNat < 0x7F := by
  have hascii : c.toNat < 128 := by
    rcases Bool.or_eq_true_iff.mp h with h | h
    · exact Text.toNat_lt_of_isAlphanum h
    · have hmarks : ∀ c ∈ "!$&'()*+,.:;=@_~[]-".toList, c.toNat < 128 := by simp
      exact hmarks c (List.contains_iff_mem.mp h)
  exact Text.ascii_forall
    (P := fun c => isAuthorityChar c = true → 0x20 < c.toNat ∧ c.toNat < 0x7F)
    (by decide +kernel) hascii h

/-- The characters of an authority can be seen. -/
theorem visible_of_step {st st' : AuthorityScan} (h : st.step c = .ok st') :
    0x20 < c.toNat ∧ c.toNat < 0x7F := by
  unfold AuthorityScan.step at h
  by_cases hmark : c = ':' ∨ c = '[' ∨ c = ']' ∨ c = '@' ∨ c = '%'
  · rcases hmark with rfl | rfl | rfl | rfl | rfl <;> decide
  · simp only [not_or] at hmark
    obtain ⟨hcolon, hopen, hclose, hat, hpercent⟩ := hmark
    rw [if_neg hcolon, if_neg hopen, if_neg hclose, if_neg hat, if_neg hpercent] at h
    by_cases hchar : isAuthorityChar c = true
    · exact visible_of_isAuthorityChar hchar
    · rw [if_neg hchar] at h
      cases h

theorem visible_of_finish {st : AuthorityScan} (h : st.finish s = .ok ()) :
    ∀ c ∈ s, 0x20 < c.toNat ∧ c.toNat < 0x7F := by
  induction s generalizing st with
  | nil => simp
  | cons c s ih =>
      rw [AuthorityScan.finish] at h
      cases hstep : st.step c with
      | error e =>
          rw [hstep] at h
          cases h
      | ok st' =>
          rw [hstep] at h
          exact List.forall_mem_cons.mpr ⟨visible_of_step hstep, ih h⟩

/-! ### The parts of a URI -/

/-- Each part consists of the characters of such a part. -/
structure WellFormed (u : Uri) : Prop where
  authority : ∀ authority ∈ u.authority?, checkAuthority authority.toList = .ok ()
  path : ∀ c ∈ u.path.toList, isPathChar c = true
  query : ∀ query ∈ u.query?, ∀ c ∈ query.toList, isQueryChar c = true

/-- The authority of a URI may stand in a header. -/
theorem WellFormed.isHeaderValue_authority (h : u.WellFormed) {authority : String}
    (ha : u.authority? = some authority) : isHeaderValue (Bytes.ofString authority) = true := by
  have hvisible := visible_of_finish (h.authority authority ha)
  rw [Text.ofString_of_ascii fun c hc => by have := hvisible c hc; omega]
  rw [isHeaderValue, List.all_eq_true]
  intro b hb
  obtain ⟨c, hc, rfl⟩ := List.mem_map.mp hb
  obtain ⟨hlow, hhigh⟩ := hvisible c hc
  exact Text.ascii_forall
    (P := fun c => 0x20 < c.toNat → c.toNat < 0x7F →
      (UInt8.ofNat c.toNat == 9 || (UInt8.ofNat c.toNat ≥ 32 && UInt8.ofNat c.toNat != 127)) =
        true)
    (by decide +kernel) (by omega) hlow hhigh

/-! ### Path and query -/

theorem query_eq_ok {query? : Option String} (h : query s = .ok query?) :
    ∀ q ∈ query?, ∀ c ∈ q.toList, isQueryChar c = true := by
  intro q hq
  unfold query at h
  split at h
  · rename_i rest
    dsimp only at h
    split at h
    · rename_i hall
      cases h
      obtain rfl := Option.some.inj hq
      rw [String.toList_ofList]
      exact List.all_eq_true.mp hall
    · cases h
  · cases h
    cases hq

/-- A path is read up to its end, and path and query consist of their characters. -/
theorem pathAndQuery_eq_ok {path : String} {query? : Option String}
    (h : pathAndQuery s = .ok (path, query?)) :
    path.toList = s.takeWhile (!endsPath ·) ∧ (∀ c ∈ path.toList, isPathChar c = true) ∧
      ∀ q ∈ query?, ∀ c ∈ q.toList, isQueryChar c = true := by
  unfold pathAndQuery at h
  dsimp only at h
  split at h
  · rename_i hall
    cases hquery : query (s.dropWhile (!endsPath ·)) with
    | error e =>
        rw [hquery] at h
        cases h
    | ok q =>
        rw [hquery] at h
        cases h
        rw [String.toList_ofList]
        exact ⟨rfl, List.all_eq_true.mp hall, query_eq_ok hquery⟩
  · cases h

/-! ### What is read after a scheme -/

/-- After a scheme there is an authority, which is not empty, and then a path and a query. -/
theorem afterScheme_eq_ok_iff :
    afterScheme name s = .ok u ↔
      checkAuthority (s.takeWhile (!endsAuthority ·)) = .ok () ∧
        s.takeWhile (!endsAuthority ·) ≠ [] ∧
        ∃ path query?, pathAndQuery (s.dropWhile (!endsAuthority ·)) = .ok (path, query?) ∧
          u = { scheme? := some name,
                authority? := some (String.ofList (s.takeWhile (!endsAuthority ·))),
                path, query? } := by
  unfold afterScheme
  by_cases hs : s.isEmpty = true
  · obtain rfl := List.isEmpty_iff.mp hs
    rw [if_pos hs]
    refine ⟨fun h => ?_, fun h => absurd rfl h.2.1⟩
    cases h
  rw [if_neg hs]
  dsimp only
  generalize s.takeWhile (!endsAuthority ·) = authority
  rw [bind_eq_ok_iff]
  by_cases hempty : authority.isEmpty = true
  · rw [if_pos hempty]
    refine ⟨fun h => ?_, fun h => absurd (List.isEmpty_iff.mp hempty) h.2.1⟩
    obtain ⟨_, -, h⟩ := h
    cases h
  rw [if_neg hempty, bind_eq_ok_iff]
  constructor
  · intro hgiven
    obtain ⟨_, hcheck, ⟨path, query?⟩, hrest, h⟩ := hgiven
    cases h
    exact ⟨hcheck, mt List.isEmpty_iff.mpr hempty, path, query?, hrest, rfl⟩
  · intro hgiven
    obtain ⟨hcheck, -, path, query?, hrest, rfl⟩ := hgiven
    exact ⟨(), hcheck, (path, query?), hrest, rfl⟩

/-! ### The whole -/

/-- What reading a URI comes to, for the characters of its text. -/
inductive Spelling : List Char → Uri → Prop
  | asterisk : Spelling ['*'] { path := "*" }
  /-- A path and a query. -/
  | origin {rest : List Char} {path : String} {query? : Option String}
      (read : pathAndQuery ('/' :: rest) = .ok (path, query?)) :
      Spelling ('/' :: rest) { path, query? }
  | authority {s : List Char} (check : checkAuthority s = .ok ()) :
      Spelling s { authority? := some (String.ofList s) }
  | complete {s rest : List Char} {name : String} {u : Uri}
      (scheme : scheme s = .ok (some (name, rest))) (read : afterScheme name rest = .ok u) :
      Spelling s u

theorem authorityOnly_eq_ok {extra : Problem} (h : authorityOnly extra s = .ok u) :
    checkAuthority s = .ok () ∧ u = { authority? := some (String.ofList s) } := by
  unfold authorityOnly at h
  obtain ⟨_, hcheck, h⟩ := bind_eq_ok_iff.mp h
  split at h
  · cases h
  · rename_i hany
    cases h
    have hall : ∀ c ∈ s, (!endsAuthority c) = true := by simpa using hany
    rw [List.takeWhile_eq_self_iff.mpr hall] at hcheck
    exact ⟨hcheck, rfl⟩

theorem spelling_of_absolute (h : absolute s = .ok u) : Spelling s u := by
  unfold absolute at h
  obtain ⟨found, hscheme, h⟩ := bind_eq_ok_iff.mp h
  cases found with
  | some found => exact .complete hscheme h
  | none =>
      obtain ⟨hcheck, rfl⟩ := authorityOnly_eq_ok h
      exact .authority hcheck

theorem spelling_of_ofText (h : ofText text = .ok u) : Spelling text.toList u := by
  unfold ofText at h
  split at h
  · cases h
  split at h
  · cases h
  · rename_i htext
    cases h
    rw [htext]
    exact .asterisk
  · rename_i rest htext
    rw [htext]
    cases hread : pathAndQuery ('/' :: rest) with
    | error e =>
        rw [hread] at h
        cases h
    | ok parts =>
        rw [hread] at h
        cases h
        exact .origin hread
  · rename_i c _ _ htext
    rw [htext]
    obtain ⟨hcheck, rfl⟩ := authorityOnly_eq_ok h
    exact .authority hcheck
  · exact spelling_of_absolute h

/-- A URI with a scheme is read after the scheme in front of its text. -/
theorem exists_scheme_of_ofText (h : ofText text = .ok u) (hscheme : u.scheme?.isSome = true) :
    ∃ name rest, scheme text.toList = .ok (some (name, rest)) ∧ afterScheme name rest = .ok u := by
  have hspelling := spelling_of_ofText h
  generalize text.toList = s at hspelling
  cases hspelling with
  | asterisk => cases hscheme
  | origin read => cases hscheme
  | authority check => cases hscheme
  | complete scheme read => exact ⟨_, _, scheme, read⟩

/-- The parts of a URI that is read consist of the characters of such parts. -/
theorem wellFormed_of_ofText (h : ofText text = .ok u) : u.WellFormed := by
  have hspelling := spelling_of_ofText h
  generalize text.toList = s at hspelling
  cases hspelling with
  | asterisk => exact ⟨by simp, by simp [isPathChar], by simp⟩
  | origin read =>
      obtain ⟨-, hpath, hquery⟩ := pathAndQuery_eq_ok read
      exact ⟨by simp, hpath, hquery⟩
  | authority check =>
      refine ⟨?_, by simp, by simp⟩
      intro authority ha
      obtain rfl := Option.some.inj ha
      rwa [String.toList_ofList]
  | complete scheme read =>
      obtain ⟨hcheck, -, path, query?, hrest, rfl⟩ := afterScheme_eq_ok_iff.mp read
      obtain ⟨-, hpath, hquery⟩ := pathAndQuery_eq_ok hrest
      refine ⟨?_, hpath, hquery⟩
      intro authority ha
      obtain rfl := Option.some.inj ha
      rwa [String.toList_ofList]

/-- A path that is read where an authority ends begins with a slash if there is one. -/
theorem path_of_pathAndQuery {path : String} {query? : Option String}
    (hread : pathAndQuery s = .ok (path, query?)) (hs : ∀ c ∈ s.head?, endsAuthority c = true) :
    path = "" ∨ ∃ rest, path = "/" ++ rest := by
  obtain ⟨hpath, -⟩ := pathAndQuery_eq_ok hread
  cases s with
  | nil => exact .inl (String.toList_eq_nil_iff.mp hpath)
  | cons c s =>
      have hc : (c = '/' ∨ c = '?') ∨ c = '#' := by simpa [endsAuthority] using hs c rfl
      rcases hc with (rfl | rfl) | rfl
      · right
        refine ⟨String.ofList (s.takeWhile (!endsPath ·)), ?_⟩
        rw [← String.toList_inj, hpath, String.toList_append, String.toList_ofList]
        simp [endsPath]
      · exact .inl (String.toList_eq_nil_iff.mp hpath)
      · exact .inl (String.toList_eq_nil_iff.mp hpath)

/-- The path of a URI that is read begins with a slash, unless it is the asterisk or there is
none. -/
theorem path_of_ofText (h : ofText text = .ok u) :
    u.path = "" ∨ u.path = "*" ∨ ∃ rest, u.path = "/" ++ rest := by
  have hspelling := spelling_of_ofText h
  generalize text.toList = s at hspelling
  cases hspelling with
  | asterisk => exact .inr (.inl rfl)
  | origin read => exact (path_of_pathAndQuery read (by simp [endsAuthority])).imp_right .inr
  | authority check => exact .inl rfl
  | complete scheme read =>
      obtain ⟨-, -, path, query?, hrest, rfl⟩ := afterScheme_eq_ok_iff.mp read
      refine (path_of_pathAndQuery hrest ?_).imp_right .inr
      intro c hc
      simpa using Text.stops_dropWhile _ _ c hc

end FrontDoor.Http.Uri
