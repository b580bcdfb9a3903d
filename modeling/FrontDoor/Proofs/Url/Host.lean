/-
A bracket in a host.

Only a host that is an address in brackets has one (`brackets_of_ofText?`).  Everything else is
read as a name, and whatever else its text holds, an opening bracket in it is still there when it
comes to the labels: no percent sign with two digits and no longer character of UTF-8 has it for an
octet, it is folded to itself, and the normal form keeps it.  A label that spells another one keeps
the characters that are no digits.  No label may hold a bracket in the end.
-/
import FrontDoor.Proofs.Text.NormalForm
import FrontDoor.Proofs.Text.Pieces
import FrontDoor.Proofs.Text.Runs
import FrontDoor.Proofs.Text.Utf8
import FrontDoor.Url.Host

namespace FrontDoor.Url

variable {c : Char} {s rest label : List Char}

/-! ### Labels that spell another one -/

namespace Punycode

/-- A number is read off digits in front. -/
theorem exists_digits_of_number? {bias k weight n : Nat}
    (h : number? bias k weight s = some (n, rest)) :
    ∃ front, s = front ++ rest ∧ ∀ c ∈ front, digit? c ≠ none := by
  induction s generalizing k weight n with
  | nil => cases h
  | cons c s ih =>
      rw [number?] at h
      obtain ⟨d, hd, h⟩ := Option.bind_eq_some_iff.mp h
      have hc : digit? c ≠ none := by simp [hd]
      dsimp only at h
      split_ifs at h
      · cases h
        exact ⟨[c], rfl, List.forall_mem_singleton.mpr hc⟩
      · obtain ⟨⟨m, behind⟩, hm, h⟩ := Option.bind_eq_some_iff.mp h
        cases h
        obtain ⟨front, rfl, hfront⟩ := ih hm
        exact ⟨c :: front, rfl, List.forall_mem_cons.mpr ⟨hc, hfront⟩⟩

/-- Inserting keeps what is there, and all that tells what to insert is digits. -/
theorem insertAll?_eq_some {n code position bias : Nat} {out : List Char}
    (h : insertAll? n code position bias out s = some label) :
    (∀ c ∈ s, digit? c ≠ none) ∧ ∀ c ∈ out, c ∈ label := by
  induction n generalizing code position bias out s with
  | zero =>
      cases s with
      | nil =>
          cases h
          simp
      | cons c s => cases h
  | succ n ih =>
      cases s with
      | nil =>
          cases h
          simp
      | cons c s =>
          simp only [insertAll?] at h
          obtain ⟨⟨delta, behind⟩, hnumber, h⟩ := Option.bind_eq_some_iff.mp h
          obtain ⟨d, -, h⟩ := Option.bind_eq_some_iff.mp h
          obtain ⟨front, hs, hfront⟩ := exists_digits_of_number? hnumber
          obtain ⟨hbehind, hkept⟩ := ih h
          rw [hs]
          refine ⟨List.forall_mem_append.mpr ⟨hfront, hbehind⟩, ?_⟩
          intro c hc
          refine hkept c ((List.mem_insertIdx ?_).mpr (.inr hc))
          exact Nat.le_of_lt_succ (Nat.mod_lt _ (Nat.succ_pos _))

/-- The dash that divides a label is all that is lost of it. -/
theorem mem_divided (h : c ∈ label) (hdash : c ≠ '-') :
    c ∈ (divided label).1 ∨ c ∈ (divided label).2 := by
  unfold divided
  dsimp only
  split_ifs with hplain
  · exact .inr h
  · rcases Text.behind_last '-' label with ⟨-, hwhole⟩ | ⟨front, hfront⟩
    · exact .inr (hwhole.symm ▸ h)
    · generalize (label.reverse.takeWhile (· != '-')).reverse = numbers at hfront
      subst hfront
      have hlength : (front ++ '-' :: numbers).length - numbers.length - 1 = front.length := by
        simp only [List.length_append, List.length_cons]
        omega
      rw [hlength, List.take_left]
      rcases List.mem_append.mp h with h | h
      · exact .inl h
      · exact .inr ((List.mem_cons.mp h).resolve_left hdash)

/-- What is no digit is a character of the label that is spelled. -/
theorem mem_of_decode? {decoded : List Char} (h : decode? label = some decoded) (hc : c ∈ label)
    (hdash : c ≠ '-') (hdigit : digit? c = none) : c ∈ decoded := by
  unfold decode? at h
  dsimp only at h
  split_ifs at h
  obtain ⟨hnumbers, hplain⟩ := insertAll?_eq_some h
  rcases mem_divided hc hdash with hc | hc
  · exact hplain c hc
  · exact absurd hdigit (hnumbers c hc)

end Punycode

/-! ### Labels -/

namespace Label

theorem mem_of_coded? (h : coded? s = some label) (hs : '[' ∈ s) : '[' ∈ label := by
  unfold coded? at h
  split at h
  · cases h
  · obtain ⟨decoded, hdecoded, h⟩ := Option.bind_eq_some_iff.mp h
    split_ifs at h
    cases h
    exact Punycode.mem_of_decode? hdecoded hs (by decide) (by decide)

theorem mem_of_spelled? (h : spelled? s = some label) (hs : '[' ∈ s) : '[' ∈ label := by
  unfold spelled? at h
  split_ifs at h with hcoded
  · obtain ⟨code, rfl⟩ := List.isPrefixOf_iff_prefix.mp hcoded
    refine mem_of_coded? h ?_
    have hmark : '[' ∉ "xn--".toList := by decide
    exact (List.mem_append.mp hs).resolve_left hmark
  · cases h
    exact hs

/-- No label is read from characters with a bracket. -/
theorem ofFolded?_of_mem (hs : '[' ∈ s) : ofFolded? s = none := by
  rw [Option.eq_none_iff_forall_ne_some]
  intro label h
  obtain ⟨spelled, hspelled, h⟩ := Option.bind_eq_some_iff.mp h
  have hdenied : spelled.any isDenied = true :=
    List.any_eq_true.mpr ⟨_, mem_of_spelled? hspelled hs, by decide⟩
  rw [isSound, hdenied] at h
  cases h

end Label

/-! ### Names -/

namespace Host

theorem ne_of_percentOctet? {mark high low octet : UInt8}
    (h : percentOctet? mark high low = some octet) :
    0x5b ≠ mark ∧ 0x5b ≠ high ∧ 0x5b ≠ low := by
  refine ⟨?_, ?_, ?_⟩
  · rintro rfl
    obtain ⟨_, -, h⟩ := Option.bind_eq_some_iff.mp h
    obtain ⟨_, -, h⟩ := Option.bind_eq_some_iff.mp h
    cases h
  · rintro rfl
    cases h
  · rintro rfl
    obtain ⟨_, -, h⟩ := Option.bind_eq_some_iff.mp h
    cases h

/-- Decoding keeps a bracket, which is neither a percent sign nor a digit. -/
theorem mem_percentDecoded {octets : Bytes} (h : 0x5b ∈ octets) : 0x5b ∈ percentDecoded octets := by
  induction octets using percentDecoded.induct with
  | case1 b high low s octet hoctet ih =>
      obtain ⟨hb, hhigh, hlow⟩ := ne_of_percentOctet? hoctet
      simp only [List.mem_cons, hb, hhigh, hlow, false_or] at h
      rw [percentDecoded, hoctet]
      exact List.mem_cons_of_mem _ (ih h)
  | case2 b high low s hnone ih =>
      rw [percentDecoded, hnone]
      rcases List.mem_cons.mp h with rfl | h
      · exact List.mem_cons_self
      · exact List.mem_cons_of_mem _ (ih h)
  | case3 s hshort =>
      rw [percentDecoded]
      · exact h
      · exact hshort

/-- Folding keeps a bracket, which is read as itself. -/
theorem mem_of_folded? {folded : List Char} (h : folded? s = some folded) (hs : '[' ∈ s) :
    '[' ∈ folded := by
  obtain ⟨readings, hreadings, h⟩ := Option.bind_eq_some_iff.mp h
  cases h
  obtain ⟨reading, hreading, hread⟩ := Text.exists_of_mapM hreadings hs
  cases hread
  exact Text.mem_normalForm Text.inert_openBracket
    (List.mem_flatten.mpr ⟨_, hreading, List.mem_singleton.mpr rfl⟩)

/-- No name is read from octets with a bracket. -/
theorem name?_of_mem {octets : Bytes} (h : 0x5b ∈ octets) : name? octets = none := by
  rw [Option.eq_none_iff_forall_ne_some]
  intro name hname
  obtain ⟨text, htext, hname⟩ := Option.bind_eq_some_iff.mp hname
  obtain ⟨folded, hfolded, hname⟩ := Option.bind_eq_some_iff.mp hname
  obtain ⟨labels, hlabels, -⟩ := Option.bind_eq_some_iff.mp hname
  rw [Text.toString?_eq_some_iff.mp htext] at h
  obtain ⟨c, hc, hoctet⟩ := List.mem_flatMap.mp h
  obtain rfl : c = '[' := Text.eq_of_mem_utf8EncodeChar (by decide) hoctet
  obtain ⟨piece, hpiece, hbracket⟩ :=
    Text.exists_piece_of_mem (mem_of_folded? hfolded hc) (show '[' ≠ '.' by decide)
  obtain ⟨label, -, hlabel⟩ := Text.exists_of_mapM hlabels hpiece
  rw [Label.ofFolded?_of_mem hbracket] at hlabel
  cases hlabel

/-- A host with an opening bracket is an address in brackets. -/
theorem brackets_of_ofText? {host : Host} (h : ofText? s = some host) :
    '[' ∉ s ∨ ∃ inner, s = '[' :: (inner ++ [']']) := by
  rw [or_iff_not_imp_left, not_not]
  intro hs
  unfold ofText? at h
  cases hbracketed : bracketed? s with
  | some host? =>
      rw [hbracketed] at h
      unfold bracketed? at hbracketed
      split at hbracketed
      · rename_i inner
        split_ifs at hbracketed with hlast
        · obtain ⟨front, rfl⟩ := List.getLast?_eq_some_iff.mp hlast
          exact ⟨front, rfl⟩
        · cases hbracketed
          cases h
      · cases hbracketed
  | none =>
      rw [hbracketed] at h
      obtain ⟨labels, hlabels, -⟩ := Option.bind_eq_some_iff.mp h
      have hoctet : 0x5b ∈ Bytes.ofString (String.ofList s) :=
        Text.mem_ofString_of_ascii (c := '[') (by decide) (by rw [String.toList_ofList]; exact hs)
      rw [name?_of_mem (mem_percentDecoded hoctet)] at hlabels
      cases hlabels

end Host

end FrontDoor.Url
