/-
A document that goes on behind the grant it says.

Whatever the reader of a grant reads, it reads of any document that begins the same, and it stops
at the brace or bracket that closes the grant.  So a document says a grant if and only if nothing
but whitespace stands behind that octet, and then the octets in front of it alone tell which one
(`ofDocument_append_iff`).  No document is the front of one that says something else, or even the
same in another way.

A size ends only where something follows it that is no part of a number.  Inside an object or a
list something must follow, since the reader goes on to the closing octet.
-/
import FrontDoor.Proofs.Grant.Object
import FrontDoor.Proofs.Json.Extension

namespace FrontDoor.Grant

open Json
open Text (bind_eq_ok_iff map_eq_ok_iff)

variable {g g' : Grant} {f : Field} {s t rest more : Bytes} {seen seen' : List Field}

/-! ### Fields -/

theorem readField_extend (h : g.readField f s = .ok (g', rest)) (hrest : rest ≠ []) :
    g.readField f (s ++ more) = .ok (g', rest ++ more) := by
  obtain ⟨gap, v, rfl, hsaid, hends, hsame⟩ := readField_eq_ok_iff.mp h
  refine readField_eq_ok_iff.mpr ⟨gap, v, ?_, hsaid, hends.extend hrest, hsame⟩
  rw [List.append_assoc, List.append_assoc]

/-! ### Members -/

theorem keyStart_extend (h : keyStart s = .ok rest) :
    keyStart (s ++ more) = .ok (rest ++ more) := by
  rw [keyStart.eq_def] at h
  split at h
  · cases h
  · rename_i b t hs
    split at h
    · rename_i hb
      cases h
      rw [keyStart, skipSpace_extend hs]
      simp only [if_pos hb]
    · cases h

theorem nextMember_extend {first : Bool} {next : Bytes ⊕ Bytes}
    (h : nextMember first s = .ok next) :
    nextMember first (s ++ more) = .ok (next.map (· ++ more) (· ++ more)) := by
  rw [nextMember.eq_def] at h
  split at h
  · cases h
  · rename_i b t hs
    rw [nextMember, skipSpace_extend hs]
    by_cases hclose : b = octet '\x7d'
    · rw [if_pos hclose] at h
      cases h
      simp only [if_pos hclose, Sum.map_inl]
    rw [if_neg hclose] at h
    by_cases hfirst : first = true
    · rw [if_pos hfirst] at h
      obtain ⟨key, hkey, rfl⟩ := map_eq_ok_iff.mp h
      have hkey : keyStart (b :: (t ++ more)) = .ok (key ++ more) := keyStart_extend hkey
      simp only [if_neg hclose, if_pos hfirst, hkey]
      rfl
    rw [if_neg hfirst] at h
    by_cases hcomma : b = octet ','
    · rw [if_pos hcomma] at h
      obtain ⟨key, hkey, rfl⟩ := map_eq_ok_iff.mp h
      simp only [if_neg hclose, if_neg hfirst, if_pos hcomma, keyStart_extend hkey]
      rfl
    · rw [if_neg hcomma] at h
      cases h

theorem member_extend (h : member seen g s = .ok (seen', g', rest)) (hrest : rest ≠ []) :
    member seen g (s ++ more) = .ok (seen', g', rest ++ more) := by
  rw [member.eq_def] at h
  split at h
  · cases h
  · rename_i key t htext
    rw [member, text_extend htext]
    cases hkey : Field.named? key with
    | none =>
        simp only [hkey] at h ⊢
        obtain ⟨t₁, hcolon, h⟩ := bind_eq_ok_iff.mp h
        obtain ⟨t₂, hskip, h⟩ := bind_eq_ok_iff.mp h
        cases h
        simp only [colon_extend hcolon, skipValue_extend hskip hrest, bind, Except.bind]
        rfl
    | some f =>
        simp only [hkey] at h ⊢
        by_cases hseen : seen.contains f = true
        · rw [if_pos hseen] at h
          cases h
        · rw [if_neg hseen] at h ⊢
          obtain ⟨t₁, hcolon, h⟩ := bind_eq_ok_iff.mp h
          obtain ⟨⟨g₁, t₂⟩, hfield, h⟩ := bind_eq_ok_iff.mp h
          cases h
          simp only [colon_extend hcolon, readField_extend hfield hrest, bind, Except.bind]
          rfl

theorem ne_nil_of_members {first : Bool} {r : Grant × Bytes} (h : members first seen g s = .ok r) :
    s ≠ [] := by
  rintro rfl
  rw [members_eq, nextMember] at h
  cases h

/-- Members are read as if nothing followed the closing brace. -/
theorem members_extend {first : Bool} (h : members first seen g s = .ok (g', rest)) :
    members first seen g (s ++ more) = .ok (g', rest ++ more) := by
  fun_induction members first seen g s with
  | case2 first seen g s rest' hnext =>
      cases h
      rw [members_eq, nextMember_extend hnext]
      rfl
  | case4 first seen g s key hnext seen₁ g₁ rest₁ hmember ih =>
      have hmember : member seen g (key ++ more) = .ok (seen₁, g₁, rest₁ ++ more) :=
        member_extend hmember (ne_nil_of_members h)
      rw [members_eq, nextMember_extend hnext]
      simp only [Sum.map_inr, hmember]
      exact ih h
  | _ => cases h

/-! ### Elements -/

theorem ne_nil_of_elements {first : Bool} {fields : List Field} {r : Grant × Bytes}
    (h : elements first g s fields = .ok r) : s ≠ [] := by
  rintro rfl
  cases fields <;> cases h

theorem readField_extend_cons {c : UInt8} {fields : List Field} {r : Grant × Bytes}
    (h : g.readField f (c :: t) = .ok (g', rest)) (hr : elements false g' rest fields = .ok r) :
    g.readField f (c :: (t ++ more)) = .ok (g', rest ++ more) :=
  readField_extend h (ne_nil_of_elements hr)

/-- Elements are read as if nothing followed the closing bracket. -/
theorem elements_extend {first : Bool} {fields : List Field}
    (h : elements first g s fields = .ok (g', rest)) :
    elements first g (s ++ more) fields = .ok (g', rest ++ more) := by
  fun_induction elements first g s fields with
  | case2 first g s rest' hs =>
      cases h
      rw [elements, skipSpace_extend hs]
      simp only [if_pos]
  | case5 first g s f fields rest' hs =>
      cases h
      rw [elements, skipSpace_extend hs]
      simp only [if_pos]
  | case7 g s f fields b t hs hclose g₁ rest₁ hfield ih =>
      rw [elements, skipSpace_extend hs]
      simp only [if_neg hclose, if_true, readField_extend_cons hfield h]
      exact ih h
  | case11 first g s f fields t hfirst c t' ht hclose g₁ rest₁ hfield hs hcomma ih =>
      rw [elements, skipSpace_extend hs]
      simp only [if_neg hcomma, if_neg hfirst, if_pos, skipSpace_extend ht, if_neg hclose,
        readField_extend_cons hfield h]
      exact ih h
  | _ => cases h

/-! ### Documents -/

theorem value_extend (h : value s = .ok (g, rest)) : value (s ++ more) = .ok (g, rest ++ more) := by
  rw [value.eq_def] at h
  split at h
  · cases h
  · rename_i b t hs
    rw [value, skipSpace_extend hs]
    by_cases hlist : b = octet '['
    · rw [if_pos hlist] at h
      simp only [if_pos hlist]
      exact elements_extend h
    rw [if_neg hlist] at h
    by_cases hobject : b = octet '\x7b'
    · rw [if_pos hobject] at h
      simp only [if_neg hlist, if_pos hobject]
      exact members_extend h
    · rw [if_neg hobject] at h
      cases h

theorem isSpace_iff {b : UInt8} : isSpace b = true ↔ b = 0x20 ∨ b = 0x09 ∨ b = 0x0A ∨ b = 0x0D := by
  simp only [isSpace, Bool.or_eq_true, beq_iff_eq, or_assoc]

/-- **Documents that say a grant are prefix-free.**  Behind a document that says a grant only
whitespace may follow, a space, a tab, a line feed or a carriage return, and what is said with it
is the same grant. -/
theorem ofDocument_append_iff (h : ofDocument s = .ok g) :
    ofDocument (s ++ more) = .ok g' ↔
      g' = g ∧ ∀ b ∈ more, b = 0x20 ∨ b = 0x09 ∨ b = 0x0A ∨ b = 0x0D := by
  obtain ⟨rest, hvalue, hspace⟩ := ofDocument_iff_value.mp h
  have hextended : value (s ++ more) = .ok (g, rest ++ more) := value_extend hvalue
  rw [ofDocument_iff_value, hextended]
  constructor
  · rintro ⟨rest', hgiven, hspace'⟩
    cases hgiven
    exact ⟨rfl, fun b hb => isSpace_iff.mp (hspace' b (List.mem_append_right rest hb))⟩
  · rintro ⟨rfl, hmore⟩
    refine ⟨rest ++ more, rfl, fun b hb => ?_⟩
    rcases List.mem_append.mp hb with hb | hb
    · exact hspace b hb
    · exact isSpace_iff.mpr (hmore b hb)

/-- A path and a size, and between them a member that no field is named after. -/
def sizedDocument : Bytes :=
  Bytes.ofString
    "\x7b\"RepoPath\":\"/r\",\"x\":[1,\x7b\"y\":[null,\"\"]\x7d],\"LfsSize\":7\x7d"

/-- Any whitespace may follow a document, but not one more brace. -/
theorem ofDocument_append_blanks :
    ofDocument sizedDocument = .ok { repoPath := some "/r", lfsSize := some 7 } ∧
      ofDocument (sizedDocument ++ [0x20, 0x0D, 0x0A, 0x09, 0x0A]) =
        .ok { repoPath := some "/r", lfsSize := some 7 } ∧
      ∀ g, ofDocument (sizedDocument ++ [0x20, octet '\x7d']) ≠ .ok g := by
  have h : ofDocument sizedDocument = .ok { repoPath := some "/r", lfsSize := some 7 } := by
    decide +kernel
  refine ⟨h, (ofDocument_append_iff h).mpr ⟨rfl, by simp⟩, fun g hg => ?_⟩
  obtain ⟨-, hspace⟩ := (ofDocument_append_iff h).mp hg
  exact absurd (hspace (octet '\x7d') (by decide)) (by decide)

end FrontDoor.Grant
