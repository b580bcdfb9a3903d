/-
How the address of a web server begins.

Whatever stands around an address is trimmed first, then the scheme is the run in front of the
first colon.  Trimming does not reach into a front that can be seen (`trimmed_append`), so such a
front with a colon behind it spells the scheme of the address.  And a scheme of the web wants a
host: behind the colon there is more than slashes.  `http_of_ofText?` puts this together for texts
in which a request URI would find a scheme too.
-/
import FrontDoor.Http.UriReader
import FrontDoor.Proofs.Text.Ascii
import FrontDoor.Proofs.Text.Runs
import FrontDoor.Url.Basic

namespace FrontDoor.Url

open Http (Uri)
open Text (Stops)

variable {s t front behind rest : List Char} {text name : String} {url : Url}

/-! ### Trimming -/

theorem not_lineEnd_of_seen {c : Char} (h : ¬c ≤ ' ') :
    (!(c = '\t' || c = '\n' || c = '\r')) = true := by
  have hlow : ∀ d ≤ ' ', c ≠ d := fun d hd hc => h (hc ▸ hd)
  simp [hlow '\t' (by decide), hlow '\n' (by decide), hlow '\r' (by decide)]

/-- Trimming changes only what comes behind characters that can be seen. -/
theorem trimmed_append (hs : s ≠ []) (hseen : ∀ c ∈ s, ¬c ≤ ' ') (t : List Char) :
    trimmed (s ++ t) = s ++ (t.reverse.dropWhile (· ≤ ' ')).reverse.filter
      fun c => !(c = '\t' || c = '\n' || c = '\r') := by
  have hblank : ∀ c ∈ s, decide (c ≤ ' ') = false := fun c hc => decide_eq_false (hseen c hc)
  have hfront : (s ++ t).dropWhile (· ≤ ' ') = s ++ t := by
    obtain ⟨c, s, rfl⟩ := List.exists_cons_of_ne_nil hs
    exact List.dropWhile_cons_of_neg (by simpa using hblank c (by simp))
  have hback : Stops (· ≤ ' ') s.reverse := by
    intro c hc
    exact hblank c (List.mem_reverse.mp (List.mem_of_mem_head? hc))
  have hkept : s.filter (fun c => !(c = '\t' || c = '\n' || c = '\r')) = s := by
    rw [List.filter_eq_self]
    exact fun c hc => not_lineEnd_of_seen (hseen c hc)
  unfold trimmed
  dsimp only
  rw [hfront, List.reverse_append, Text.dropWhile_append_of_stops hback, List.reverse_append,
    List.reverse_reverse, List.filter_append, hkept]

theorem trimmed_eq_self (hs : s ≠ []) (hseen : ∀ c ∈ s, ¬c ≤ ' ') : trimmed s = s := by
  have h := trimmed_append hs hseen []
  rwa [List.append_nil, List.reverse_nil, List.dropWhile_nil, List.reverse_nil, List.filter_nil,
    List.append_nil] at h

/-- Behind characters that can be seen, trimming keeps whatever else can be seen. -/
theorem exists_trimmed_append (hs : s ≠ []) (hseen : ∀ c ∈ s, ¬c ≤ ' ')
    (hfirst : ∀ c ∈ t.head?, ¬c ≤ ' ') :
    ∃ kept, trimmed (s ++ t) = s ++ kept ∧ kept.head? = t.head? ∧
      ∀ c ∈ t, ¬c ≤ ' ' → c ∈ kept := by
  cases t with
  | nil => exact ⟨[], by simpa using trimmed_eq_self hs hseen, rfl, by simp⟩
  | cons d t =>
      have hd : ¬d ≤ ' ' := hfirst d rfl
      have hfront : ∀ c ∈ s ++ [d], ¬c ≤ ' ' :=
        List.forall_mem_append.mpr ⟨hseen, List.forall_mem_singleton.mpr hd⟩
      have htrimmed := trimmed_append (by simp) hfront t
      rw [List.append_assoc, List.singleton_append, List.append_assoc, List.singleton_append]
        at htrimmed
      refine ⟨_, htrimmed, rfl, ?_⟩
      intro c hc hseen
      rcases List.mem_cons.mp hc with rfl | hc
      · exact List.mem_cons_self
      · refine List.mem_cons_of_mem _ (List.mem_filter.mpr ⟨?_, not_lineEnd_of_seen hseen⟩)
        exact List.mem_reverse.mpr
          (Text.mem_dropWhile (List.mem_reverse.mpr hc) (decide_eq_false hseen))

/-! ### The scheme -/

/-- The scheme is the run of its characters in front of a colon. -/
theorem scheme?_eq_some (h : scheme? s = some (name, rest)) :
    ∃ front, s = front ++ ':' :: rest ∧ name.toList = front.map Char.toLower ∧ front ≠ [] ∧
      ∀ c ∈ front, isSchemeChar c = true := by
  unfold scheme? at h
  dsimp only at h
  split at h
  · cases h
  · rename_i hletter
    split at h
    · rename_i hbehind
      cases h
      refine ⟨s.takeWhile isSchemeChar, ?_, String.toList_ofList, ?_,
        fun c hc => List.mem_takeWhile_imp hc⟩
      · exact (List.takeWhile_append_dropWhile (p := isSchemeChar) (l := s)).symm.trans
          (by rw [hbehind])
      · intro hnil
        rw [hnil] at hletter
        exact hletter rfl
    · cases h

/-! ### What a scheme wants behind it -/

theorem scheme_of_afterSlashes? {form : Form} (h : afterSlashes? name form s = some url) :
    url.scheme = name := by
  unfold afterSlashes? at h
  obtain ⟨authority, -, h⟩ := Option.bind_eq_some_iff.mp h
  cases h
  rfl

theorem scheme_of_afterFile? (h : afterFile? s = some url) : url.scheme = "file" := by
  unfold afterFile? at h
  split at h
  · dsimp only at h
    split at h
    · cases h
      rfl
    split at h
    · cases h
      rfl
    · obtain ⟨host, -, h⟩ := Option.bind_eq_some_iff.mp h
      cases h
      rfl
  · cases h
    rfl

/-- Where a host has to follow, slashes alone are no address. -/
theorem afterSlashes?_hosted_nil (name : String) : afterSlashes? name .hosted [] = none := rfl

/-- An address with the scheme `http` has a host behind its colon and the slashes there. -/
theorem of_ofText?_http (h : ofText? text = some url) (hscheme : url.scheme = "http") :
    ∃ rest, scheme? (trimmed text.toList) = some ("http", rest) ∧
      afterSlashes? "http" .hosted (rest.dropWhile isSlash) = some url := by
  unfold ofText? at h
  obtain ⟨⟨name, rest⟩, hfound, h⟩ := Option.bind_eq_some_iff.mp h
  dsimp only at h
  cases hform : formOf name with
  | hosted =>
      rw [hform] at h
      dsimp only at h
      obtain rfl := (scheme_of_afterSlashes? h).symm.trans hscheme
      exact ⟨rest, hfound, h⟩
  | file =>
      rw [hform] at h
      have hfile := (scheme_of_afterFile? h).symm.trans hscheme
      exact absurd hfile (by decide)
  | free =>
      -- The scheme `http` is none of those under which a path may follow at once.
      rw [hform] at h
      have hname : url.scheme = name := by
        dsimp only at h
        split at h
        · exact scheme_of_afterSlashes? h
        · cases h
          rfl
      rw [← hname, hscheme] at hform
      exact absurd hform (by decide)

/-! ### Texts with a scheme of a request URI -/

theorem seen_of_isSchemeChar {c : Char} (h : Uri.isSchemeChar c = true) : ¬c ≤ ' ' := by
  intro hle
  have hascii : c.toNat ≤ 32 := hle
  exact Text.ascii_forall (P := fun c => Uri.isSchemeChar c = true → ¬c ≤ ' ')
    (by decide +kernel) (by omega) h hle

/-- In front of its first colon an address with the scheme `http` has that scheme, and behind it
there is more than slashes. -/
theorem http_of_ofText? (h : ofText? text = some url) (hscheme : url.scheme = "http")
    (htext : text.toList = front ++ ':' :: behind)
    (hfront : ∀ c ∈ front, Uri.isSchemeChar c = true) :
    front.map Char.toLower = "http".toList ∧ ∃ c ∈ behind, isSlash c = false := by
  obtain ⟨rest, hfound, hrest⟩ := of_ofText?_http h hscheme
  obtain ⟨front', hsplit, hlower, -, hfront'⟩ := scheme?_eq_some hfound
  have hcolon : ':' ∉ front := fun hc => absurd (hfront _ hc) (by decide)
  have hcolon' : ':' ∉ front' := fun hc => absurd (hfront' _ hc) (by decide)
  have hseen : ∀ c ∈ front ++ [':'], ¬c ≤ ' ' := by
    intro c hc
    rcases List.mem_append.mp hc with hc | hc
    · exact seen_of_isSchemeChar (hfront c hc)
    · obtain rfl := List.mem_singleton.mp hc
      decide
  have hwhole : text.toList = (front ++ [':']) ++ behind := by simp [htext]
  -- What counts of the text begins with the same front, so this is the scheme that was found.
  have htrimmed := trimmed_append (by simp) hseen behind
  rw [← hwhole, hsplit, List.append_assoc, List.singleton_append] at htrimmed
  obtain ⟨rfl, -⟩ := Text.append_cons_inj hcolon' hcolon htrimmed
  refine ⟨hlower.symm, ?_⟩
  -- Slashes can be seen, so nothing is trimmed if there are only these.
  by_contra hno
  have hslashes : ∀ c ∈ behind, isSlash c = true := by simpa using hno
  have hself : trimmed text.toList = text.toList := by
    refine trimmed_eq_self (by simp [htext]) ?_
    intro c hc
    rw [hwhole] at hc
    rcases List.mem_append.mp hc with hc | hc
    · exact hseen c hc
    · have hslash : c = '/' ∨ c = '\\' := by simpa [isSlash] using hslashes c hc
      rcases hslash with rfl | rfl <;> decide
  rw [hself, htext] at hsplit
  obtain ⟨-, rfl⟩ := Text.append_cons_inj hcolon hcolon hsplit
  rw [List.dropWhile_eq_nil_iff.mpr hslashes, afterSlashes?_hosted_nil] at hrest
  cases hrest

end FrontDoor.Url
