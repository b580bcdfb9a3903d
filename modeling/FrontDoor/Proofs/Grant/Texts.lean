/-
No grant that is read has an empty text.

An empty text in a document is read like a field that does not occur.  A path that is empty would
mean the working directory to whoever appends a name to it, so this holds for every run of octets
and not only for the documents one expects.  The readers of objects and of lists put values into
fields one after the other, and each of these steps keeps it (`hasNoEmptyText_readField`); both
inductions are along the reader.
-/
import FrontDoor.Proofs.Grant.Object

namespace FrontDoor.Grant

open Json
open Text (bind_eq_ok_iff)

variable {g g' : Grant} {f : Field} {s rest : Bytes} {seen seen' : List Field}

/-- No text of the grant is empty. -/
def HasNoEmptyText (g : Grant) : Prop :=
  ∀ f, g.text? f ≠ some ""

theorem hasNoEmptyText_empty : HasNoEmptyText {} := by
  intro f
  cases f <;> nofun

/-- No value says an empty text. -/
theorem not_says_empty {v : Bytes} : ¬Says f v (some (.text "")) := by
  intro h
  cases h with
  | text nonempty written => exact nonempty rfl

theorem hasNoEmptyText_readField (hg : g.HasNoEmptyText) (h : g.readField f s = .ok (g', rest)) :
    g'.HasNoEmptyText := by
  obtain ⟨gap, v, -, hsaid, -, hsame⟩ := readField_eq_ok_iff.mp h
  intro f' hempty
  have hdatum : g'.datum? (.text f') = some (.text "") := by
    rw [datum?, hempty]
    rfl
  by_cases hf : .text f' = f
  · rw [← hf, hdatum] at hsaid
    exact not_says_empty hsaid
  · rw [hsame _ hf] at hdatum
    exact hg f' (map_text_inj (b := some "") hdatum)

/-! ### Objects -/

theorem hasNoEmptyText_member (hg : g.HasNoEmptyText)
    (h : member seen g s = .ok (seen', g', rest)) : g'.HasNoEmptyText := by
  rw [member.eq_def] at h
  split at h
  · cases h
  · rename_i key t _
    cases hkey : Field.named? key with
    | none =>
        simp only [hkey] at h
        obtain ⟨_, -, h⟩ := bind_eq_ok_iff.mp h
        obtain ⟨_, -, h⟩ := bind_eq_ok_iff.mp h
        cases h
        exact hg
    | some f =>
        simp only [hkey] at h
        split at h
        · cases h
        · obtain ⟨_, -, h⟩ := bind_eq_ok_iff.mp h
          obtain ⟨⟨g₁, t₁⟩, hfield, h⟩ := bind_eq_ok_iff.mp h
          cases h
          exact hasNoEmptyText_readField hg hfield

theorem hasNoEmptyText_members {first : Bool} (hg : g.HasNoEmptyText)
    (h : members first seen g s = .ok (g', rest)) : g'.HasNoEmptyText := by
  fun_induction members first seen g s with
  | case2 first seen g s rest' hnext =>
      cases h
      exact hg
  | case4 first seen g s key hnext seen₁ g₁ rest₁ hmember ih =>
      exact ih (hasNoEmptyText_member hg hmember) h
  | _ => cases h

/-! ### Lists -/

theorem hasNoEmptyText_elements {first : Bool} {fields : List Field} (hg : g.HasNoEmptyText)
    (h : elements first g s fields = .ok (g', rest)) : g'.HasNoEmptyText := by
  fun_induction elements first g s fields with
  | case2 first g s rest' hs =>
      cases h
      exact hg
  | case5 first g s f fields rest' hs =>
      cases h
      exact hg
  | case7 g s f fields b t hs hclose g₁ rest₁ hfield ih =>
      exact ih (hasNoEmptyText_readField hg hfield) h
  | case11 first g s f fields t hfirst c t' ht hclose g₁ rest₁ hfield hs hcomma ih =>
      exact ih (hasNoEmptyText_readField hg hfield) h
  | _ => cases h

/-! ### Documents -/

theorem hasNoEmptyText_value (h : value s = .ok (g, rest)) : g.HasNoEmptyText := by
  rw [value.eq_def] at h
  split at h
  · cases h
  · split at h
    · exact hasNoEmptyText_elements hasNoEmptyText_empty h
    · split at h
      · exact hasNoEmptyText_members hasNoEmptyText_empty h
      · cases h

/-- No grant that a document says has an empty text. -/
theorem hasNoEmptyText_of_ofDocument (h : ofDocument s = .ok g) : g.HasNoEmptyText := by
  obtain ⟨rest, hvalue, -⟩ := ofDocument_iff_value.mp h
  exact hasNoEmptyText_value hvalue

end FrontDoor.Grant
