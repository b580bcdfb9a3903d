/-
The text of a backend, as the two readers have it.

When settings are checked, the backend's text is read as an address; when a request is delegated, it
is read as the front of a request URI.  The first reader is generous: it trims blanks, drops line
ends and takes any number of slashes.  The second takes the text as it stands.  What it has to find
there is `Legible`: a scheme, a colon and two slashes, an authority that passes its check, and the
beginning of a path.

It finds the same whether the backend's text is all there is or more follows (`legible_of_read`), so
a text that is no request URI by itself is no front of one either.  And of a legible text that is
accepted as an address, the address is read off the same parts, so that neither a query nor a
fragment is left in it (`Legible.read_address`).
-/
import FrontDoor.Proofs.Gateway.Destination
import FrontDoor.Proofs.Http.UriFront
import FrontDoor.Proofs.Url.Authority

namespace FrontDoor

open Http
open Text (Stops)

/-! ### The ends of an address -/

namespace Url

variable {s : List Char} {name : String} {url : Url}

/-- An address without a query and a fragment ends with its path. -/
theorem not_mem_of_withEnd (hquery : (withEnd url s).query? = none)
    (hfragment : (withEnd url s).fragment? = none) : '?' ∉ s ∧ '#' ∉ s := by
  unfold withEnd at hquery hfragment
  dsimp only at hquery hfragment
  have hhash : ∀ c ∈ s, (c != '#') = true := by
    split at hfragment
    · cases hfragment
    · rename_i hnone
      exact List.dropWhile_eq_nil_iff.mp hnone
  rw [List.takeWhile_eq_self_iff.mpr hhash] at hquery
  have hmark : ∀ c ∈ s, (c != '?') = true := by
    split at hquery
    · cases hquery
    · rename_i hnone
      exact List.dropWhile_eq_nil_iff.mp hnone
  exact ⟨fun hc => by simpa using hmark _ hc, fun hc => by simpa using hhash _ hc⟩

/-- What is read behind the slashes of a scheme: the authority, as far as it goes, and the end. -/
theorem of_afterSlashes? {authority kept : List Char} (hne : authority ≠ [])
    (hfree : ∀ c ∈ authority, endsAuthority .hosted c = false)
    (hkept : Stops (!endsAuthority .hosted ·) kept)
    (h : afterSlashes? name .hosted
      (('/' :: '/' :: (authority ++ kept)).dropWhile isSlash) = some url) :
    ∃ host port?, authority? .hosted kept.isEmpty authority = some (host, port?) ∧
      url = withEnd { scheme := name, host? := some host, port?, path := "" } kept := by
  have hall : ∀ c ∈ authority, (!endsAuthority .hosted c) = true := by simpa using hfree
  have hslashes : ('/' :: '/' :: (authority ++ kept)).dropWhile isSlash = authority ++ kept := by
    obtain ⟨c, more, rfl⟩ := List.exists_cons_of_ne_nil hne
    have hc : isSlash c = false := by
      rw [Bool.eq_false_iff]
      intro hslash
      have hmark : c = '/' ∨ c = '\\' := by simpa [isSlash] using hslash
      have hc := hfree c (by simp)
      rcases hmark with rfl | rfl <;> cases hc
    exact Text.dropWhile_append_of_all (s := ['/', '/']) (by simp [isSlash]) (Text.stops_cons hc)
  rw [hslashes, afterSlashes?, Text.takeWhile_append_of_all hall hkept,
    Text.dropWhile_append_of_all hall hkept] at h
  obtain ⟨⟨host, port?⟩, hhost, h⟩ := Option.bind_eq_some_iff.mp h
  cases h
  exact ⟨host, port?, hhost, rfl⟩

end Url

/-! ### Legible backends -/

namespace Delegation

/-- The text is the scheme `http` in whatever case, a colon and two slashes, an authority that passes
its check, and what a URI may have behind it. -/
structure Legible (text front authority base : String) : Prop where
  text_eq : text = front ++ "://" ++ authority ++ base
  web : front.toLower = "http"
  authority_ne : authority ≠ ""
  authority_free : ∀ c ∈ authority.toList, Uri.endsAuthority c = false
  base_first : Stops (!Uri.endsAuthority ·) base.toList
  checked : Uri.checkAuthority authority.toList = .ok ()
  read : ∃ parts, Uri.pathAndQuery base.toList = .ok parts

variable {text front authority base tail name : String} {url : Url} {uri : Uri}

/-- What is read behind a scheme is legible as far as it is the text's, whatever follows where its
authority is over. -/
theorem legible_of_afterScheme {front rest more : List Char}
    (htext : text.toList = front ++ ':' :: '/' :: '/' :: rest)
    (hweb : front.map Char.toLower = "http".toList) (hmore : Stops (!Uri.endsAuthority ·) more)
    (h : Uri.afterScheme name (rest ++ more) = .ok uri) :
    ∃ front authority base, Legible text front authority base ∧
      uri.authority? = some authority := by
  obtain ⟨hcheck, hne, path, query?, hread, rfl⟩ := Uri.afterScheme_eq_ok_iff.mp h
  rw [Text.takeWhile_append_of_stops hmore] at hcheck hne ⊢
  rw [Text.dropWhile_append_of_stops hmore] at hread
  refine ⟨String.ofList front, _, String.ofList (rest.dropWhile (!Uri.endsAuthority ·)), ?_, rfl⟩
  constructor
  case text_eq =>
      rw [← String.toList_inj, htext]
      simp [List.takeWhile_append_dropWhile]
  case web =>
      rw [← String.toList_inj, Text.toList_toLower, String.toList_ofList, hweb]
  case authority_ne =>
      intro hempty
      exact hne (by simpa using congrArg String.toList hempty)
  case authority_free =>
      intro c hc
      rw [String.toList_ofList] at hc
      simpa using List.mem_takeWhile_imp hc
  case base_first =>
      rw [String.toList_ofList]
      exact Text.stops_dropWhile _ _
  case checked =>
      rw [String.toList_ofList]
      exact hcheck
  case read =>
      rw [String.toList_ofList]
      exact Uri.pathAndQuery_front hread

/-- A backend whose text is a complete URI is legible. -/
theorem legible_of_completeUri (hurl : Url.ofText? text = some url) (hscheme : url.scheme = "http")
    (h : completeUri text = .ok uri) : ∃ front authority base, Legible text front authority base := by
  obtain ⟨hread, hcomplete, -⟩ := completeUri_eq_ok h
  obtain ⟨name, rest, hname, hafter⟩ := Uri.exists_scheme_of_ofText hread hcomplete
  obtain ⟨front, htext, hfront⟩ := Uri.exists_front_of_scheme hname
  have htext : text.toList = front ++ ':' :: '/' :: '/' :: rest := by simpa using htext
  obtain ⟨hweb, -⟩ := Url.http_of_ofText? hurl hscheme htext hfront
  rw [← List.append_nil rest] at hafter
  obtain ⟨front, authority, base, hlegible, -⟩ :=
    legible_of_afterScheme htext hweb Text.stops_nil hafter
  exact ⟨front, authority, base, hlegible⟩

/-- A backend whose text is the front of a complete URI is legible, if a slash follows it. -/
theorem legible_of_read (hurl : Url.ofText? text = some url) (hscheme : url.scheme = "http")
    (hread : Uri.ofText (text ++ "/" ++ tail) = .ok uri) (hcomplete : uri.scheme?.isSome = true) :
    ∃ front authority base, Legible text front authority base ∧
      uri.authority? = some authority := by
  obtain ⟨front, back, htext, hweb, hafter⟩ := afterScheme_of_ofText hurl hscheme hread hcomplete
  exact legible_of_afterScheme htext hweb (Text.stops_cons rfl) hafter

namespace Legible

theorem toList_eq (h : Legible text front authority base) :
    text.toList = front.toList ++ "://".toList ++ (authority.toList ++ base.toList) := by
  rw [h.text_eq]
  simp only [String.toList_append, List.append_assoc]

theorem lower (h : Legible text front authority base) :
    front.toList.map Char.toLower = "http".toList := by
  rw [← Text.toList_toLower, h.web]

/-- A legible text is a complete URI if it is not too long. -/
theorem completeUri_eq_ok (h : Legible text front authority base)
    (hsize : text.utf8ByteSize ≤ Uri.maxSize) : ∃ uri, completeUri text = .ok uri := by
  have hall : ∀ c ∈ authority.toList, (!Uri.endsAuthority c) = true := by
    simpa using h.authority_free
  obtain ⟨⟨path, query?⟩, hread⟩ := h.read
  have hafter : Uri.afterScheme "http" (authority.toList ++ base.toList) =
      .ok { scheme? := some "http", authority? := some authority, path, query? } := by
    rw [Uri.afterScheme_eq_ok_iff, Text.takeWhile_append_of_all hall h.base_first,
      Text.dropWhile_append_of_all hall h.base_first, String.ofList_toList]
    exact ⟨h.checked, mt String.toList_eq_nil_iff.mp h.authority_ne, path, query?, hread, rfl⟩
  have hread : Uri.ofText text =
      .ok { scheme? := some "http", authority? := some authority, path, query? } := by
    rw [Uri.ofText_of_isWeb (.inl h.lower) h.toList_eq, if_neg (by omega), h.lower,
      String.ofList_toList, hafter]
  exact ⟨_, completeUri_of_ofText hread rfl rfl⟩

theorem isSchemeChar (h : Legible text front authority base) {c : Char} (hc : c ∈ front.toList) :
    Uri.isSchemeChar c = true := by
  have hletters : ∀ d ∈ "http".toList, d.isLower = true := by simp
  exact Uri.isSchemeChar_of_toLower
    (hletters _ (by rw [← h.lower]; exact List.mem_map_of_mem hc))

/-- What stands in front of the base can be seen. -/
theorem seen (h : Legible text front authority base) :
    ∀ c ∈ front.toList ++ "://".toList ++ authority.toList, ¬c ≤ ' ' := by
  have hbetween : ∀ c ∈ "://".toList, ¬c ≤ ' ' := by
    intro c hc
    have hmark : c = ':' ∨ c = '/' := by simpa using hc
    rcases hmark with rfl | rfl <;> decide
  refine List.forall_mem_append.mpr ⟨List.forall_mem_append.mpr ⟨?_, hbetween⟩, ?_⟩
  · exact fun c hc => Url.seen_of_isSchemeChar (h.isSchemeChar hc)
  · intro c hc hle
    have hlow : c.toNat ≤ 0x20 := hle
    have hvisible := (Uri.visible_of_finish h.checked c hc).1
    omega

/-- The base begins with a slash, a question mark or a hash, if it is not empty. -/
theorem base_head (h : Legible text front authority base) :
    ∀ c ∈ base.toList.head?, c = '/' ∨ c = '?' ∨ c = '#' := by
  intro c hc
  have hends : Uri.endsAuthority c = true := by simpa using h.base_first c hc
  simpa [Uri.endsAuthority, or_assoc] using hends

/-- Behind the scheme of what counts of the text stand the authority and what counts of the base. -/
theorem exists_kept (h : Legible text front authority base) {rest : List Char}
    (hfound : Url.scheme? (Url.trimmed text.toList) = some (name, rest)) :
    ∃ kept, rest = '/' :: '/' :: (authority.toList ++ kept) ∧ kept.head? = base.toList.head? ∧
      ∀ c ∈ base.toList, ¬c ≤ ' ' → c ∈ kept := by
  have hfirst : ∀ c ∈ base.toList.head?, ¬c ≤ ' ' := by
    intro c hc
    rcases h.base_head c hc with rfl | rfl | rfl <;> decide
  obtain ⟨kept, htrimmed, hhead, hkept⟩ := Url.exists_trimmed_append (by simp) h.seen hfirst
  refine ⟨kept, ?_, hhead, hkept⟩
  obtain ⟨front', hsplit, -, -, hfront'⟩ := Url.scheme?_eq_some hfound
  have hcolon : ':' ∉ front.toList := fun hc => absurd (h.isSchemeChar hc) (by decide)
  have hcolon' : ':' ∉ front' := fun hc => absurd (hfront' _ hc) (by decide)
  have hwhole : front' ++ ':' :: rest =
      front.toList ++ ':' :: '/' :: '/' :: (authority.toList ++ kept) := by
    rw [← hsplit, h.toList_eq, ← List.append_assoc, htrimmed]
    simp
  exact (Text.append_cons_inj hcolon' hcolon hwhole).2

/-- A legible text that is read as an address without a query and a fragment: its base is no more
than the beginning of a path, and the host of the address is read off its authority. -/
theorem read_address (h : Legible text front authority base) (hurl : Url.ofText? text = some url)
    (hscheme : url.scheme = "http") (hquery : url.query? = none) (hfragment : url.fragment? = none) :
    (∀ c ∈ base.toList, c ∉ ['?', '#']) ∧
      ∃ final host port?, Url.authority? .hosted final authority.toList = some (host, port?) ∧
        url.host? = some host := by
  obtain ⟨rest, hfound, hafter⟩ := Url.of_ofText?_http hurl hscheme
  obtain ⟨kept, rfl, hhead, hkept⟩ := h.exists_kept hfound
  have hall : ∀ c ∈ authority.toList, Url.endsAuthority .hosted c = false := by
    intro c hc
    have hslash : c ≠ '\\' := by
      rintro rfl
      exact Uri.backslash_not_mem h.checked hc
    simpa [Url.endsAuthority, Uri.endsAuthority, hslash] using h.authority_free c hc
  have hstops : Stops (!Url.endsAuthority .hosted ·) kept := by
    intro c hc
    rw [hhead] at hc
    rcases h.base_head c hc with rfl | rfl | rfl <;> rfl
  obtain ⟨host, port?, hhost, rfl⟩ :=
    Url.of_afterSlashes? (mt String.toList_eq_nil_iff.mp h.authority_ne) hall hstops hafter
  obtain ⟨hmark, hhash⟩ := Url.not_mem_of_withEnd hquery hfragment
  refine ⟨?_, _, host, port?, hhost, rfl⟩
  intro c hc hends
  have hends : c = '?' ∨ c = '#' := by simpa using hends
  rcases hends with rfl | rfl
  · exact hmark (hkept _ hc (by decide))
  · exact hhash (hkept _ hc (by decide))

/-- Then the base may stand in front of any path. -/
theorem base_path (h : Legible text front authority base)
    (hfree : ∀ c ∈ base.toList, c ∉ ['?', '#']) :
    (base = "" ∨ ∃ rest, base = "/" ++ rest) ∧ ∀ c ∈ base.toList, Uri.isPathChar c = true := by
  have hall : ∀ c ∈ base.toList, (!Uri.endsPath c) = true := by
    simpa [Uri.endsPath] using hfree
  refine ⟨?_, ?_⟩
  · cases hbase : base.toList with
    | nil => exact .inl (String.toList_eq_nil_iff.mp hbase)
    | cons c rest =>
        have hc := hfree c (by simp [hbase])
        have hhead := h.base_head c (by simp [hbase])
        obtain rfl : c = '/' := by simpa [not_or.mp (by simpa using hc)] using hhead
        refine .inr ⟨String.ofList rest, ?_⟩
        rw [← String.toList_inj, hbase]
        simp
  · obtain ⟨⟨path, query?⟩, hread⟩ := h.read
    obtain ⟨hpath, hchars, -⟩ := Uri.pathAndQuery_eq_ok hread
    rw [List.takeWhile_eq_self_iff.mpr hall] at hpath
    rw [← hpath]
    exact hchars

theorem webAddress (h : Legible text front authority base)
    (hfree : ∀ c ∈ base.toList, c ∉ ['?', '#']) : WebAddress text front authority base where
  text_eq := h.text_eq
  web := .inl h.web
  authority_ne := h.authority_ne
  authority_free := by
    have hauthority := h.authority_free
    simpa [Uri.endsAuthority, and_assoc] using hauthority
  base_slash := (h.base_path hfree).1
  base_free := hfree

/-- What is intended behind a legible text with no more than a path has the characters of a URI. -/
theorem wellFormed_intended (h : Legible text front authority base)
    (hfree : ∀ c ∈ base.toList, c ∉ ['?', '#']) {path suffix : String} {query? : Option String}
    (hpath : ∀ c ∈ path.toList, Uri.isPathChar c = true)
    (hquery : ∀ query ∈ query?, ∀ c ∈ query.toList, Uri.isQueryChar c = true)
    (hsuffix : ∀ c ∈ suffix.toList, Uri.isPathChar c = true ∧ Uri.isQueryChar c = true) :
    (intended front.toLower authority base path suffix query?).WellFormed := by
  have hbase := (h.base_path hfree).2
  have hchecked : ∀ a ∈ some authority, Uri.checkAuthority a.toList = .ok () := by
    intro a ha
    obtain rfl := Option.some.inj ha
    exact h.checked
  cases query? with
  | none =>
      refine ⟨hchecked, ?_, by simp [intended]⟩
      simp only [intended, String.toList_append, List.forall_mem_append]
      exact ⟨⟨hbase, hpath⟩, fun c hc => (hsuffix c hc).1⟩
  | some query =>
      refine ⟨hchecked, ?_, ?_⟩
      · simp only [intended, String.toList_append, List.forall_mem_append]
        exact ⟨hbase, hpath⟩
      · intro q hq
        obtain rfl := Option.some.inj hq
        rw [String.toList_append, List.forall_mem_append]
        exact ⟨hquery query rfl, fun c hc => (hsuffix c hc).2⟩

/-- Behind a legible text with no more than a path there is room for whatever a client asks for. -/
theorem exists_request {d : Delegation} {inbound : Request} {path suffix : String}
    (h : Legible d.backend front authority base) (hfree : ∀ c ∈ base.toList, c ∉ ['?', '#'])
    (huri : inbound.uri.WellFormed) (htarget : inbound.uri.target = path ++ inbound.uri.queryText)
    (hpath : ∃ rest, path = "/" ++ rest)
    (hsuffix : ∀ c ∈ suffix.toList, Uri.isPathChar c = true ∧ Uri.isQueryChar c = true)
    (hsize : (d.address inbound suffix).utf8ByteSize ≤ Uri.maxSize) (body? : Option Bytes) :
    ∃ built, d.request inbound body? suffix = .ok built := by
  have hends : ∀ c ∈ suffix.toList, c ∉ ['?', '#'] := by
    intro c hc
    simpa [Uri.endsPath] using Uri.endsPath_of_isPathChar (hsuffix c hc).1
  have hpath_chars : ∀ c ∈ path.toList, Uri.isPathChar c = true := by
    rcases path_of_target htarget with rfl | rfl
    · exact huri.path
    · simp [Uri.isPathChar]
  have hdivided := divided_intended (h.webAddress hfree) huri htarget hpath hends
  have hwell := h.wellFormed_intended hfree hpath_chars huri.query hsuffix
  have haddress : d.address inbound suffix = front ++ "://" ++ authority ++
      (intended front.toLower authority base path suffix inbound.uri.query?).path ++
      (intended front.toLower authority base path suffix inbound.uri.query?).queryText := by
    rw [String.append_assoc, intended_written htarget front.toLower authority base suffix, address,
      h.text_eq]
    simp only [String.append_assoc]
  rw [haddress] at hsize
  have hread := (Uri.ofText_eq_ok_iff hdivided rfl).mpr ⟨hsize, hwell, rfl⟩
  rw [← haddress] at hread
  have hcomplete := completeUri_of_ofText hread (by simp [hdivided.scheme_eq])
    (by simp [hdivided.authority_eq])
  exact ⟨_, request_eq_ok_iff.mpr ⟨_, hcomplete, rfl⟩⟩

end Legible

end Delegation

end FrontDoor
