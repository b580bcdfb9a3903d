/-
Octets behind what a reader reads.

A reader takes its token from the front and hands on the rest, so it makes the same of a document
that goes on behind that rest.  There is one exception: nothing closes a number, and more digits
behind one that ends the document belong to it.  So for the readers that may end with a number the
rest must not be empty; all others stop at an octet of their own.

Passing over a value ends with a number only when no list or object is open.  While one is, what
follows must still close it, and so something does follow: that is what `skipFrom_extend` takes
from the lengths of the rests.
-/
import FrontDoor.Proofs.Json.Skip

namespace FrontDoor.Json

variable {s t rest more : Bytes} {b : UInt8} {frame : Frame} {stack : List Frame} {phase : Phase}

theorem skipSpace_extend (h : skipSpace s = b :: t) : skipSpace (s ++ more) = b :: (t ++ more) := by
  unfold skipSpace at h ⊢
  rw [List.dropWhile_append, h]
  rfl

theorem word_extend {w : Bytes} (h : word w s = .ok rest) :
    word w (s ++ more) = .ok (rest ++ more) := by
  rw [word_eq_ok_iff] at h ⊢
  rw [h, List.append_assoc]

/-! ### Strings -/

theorem skipText_extend (h : skipText s = .ok rest) :
    skipText (s ++ more) = .ok (rest ++ more) := by
  obtain ⟨body, rfl, hbody⟩ := skipText_eq_ok_iff.mp h
  exact skipText_eq_ok_iff.mpr ⟨body, by rw [List.append_assoc, List.cons_append], hbody⟩

theorem text_extend {value : String} (h : text s = .ok (value, rest)) :
    text (s ++ more) = .ok (value, rest ++ more) := by
  obtain ⟨body, rfl, hbody⟩ := text_eq_ok_iff.mp h
  exact text_eq_ok_iff.mpr ⟨body, by rw [List.append_assoc, List.cons_append], hbody⟩

/-! ### Numbers -/

theorem Closes.extend {n : Numeral} (h : Closes n rest) (hrest : rest ≠ []) :
    Closes n (rest ++ more) := by
  obtain ⟨b, t, rfl⟩ := List.exists_cons_of_ne_nil hrest
  exact ⟨h.digit, h.point, h.mark⟩

theorem skipNumber_extend (h : skipNumber s = .ok rest) (hrest : rest ≠ []) :
    skipNumber (s ++ more) = .ok (rest ++ more) := by
  obtain ⟨n, token, rfl, hwritten, hcloses⟩ := skipNumber_eq_ok_iff.mp h
  exact skipNumber_eq_ok_iff.mpr
    ⟨n, token, List.append_assoc _ _ _, hwritten, hcloses.extend hrest⟩

theorem EndsBehind.extend {v : Bytes} (h : EndsBehind v rest) (hrest : rest ≠ []) :
    EndsBehind v (rest ++ more) := by
  obtain ⟨b, t, rfl⟩ := List.exists_cons_of_ne_nil hrest
  exact h

/-! ### Keys -/

theorem colon_extend (h : colon s = .ok rest) : colon (s ++ more) = .ok (rest ++ more) := by
  rw [colon.eq_def] at h
  split at h
  · cases h
  · rename_i b t hs
    split at h
    · rename_i hb
      cases h
      rw [colon, skipSpace_extend hs]
      simp only [if_pos hb]
    · cases h

theorem skipKey_extend (h : skipKey s = .ok rest) : skipKey (s ++ more) = .ok (rest ++ more) := by
  rw [skipKey.eq_def] at h
  split at h
  · cases h
  · rename_i b t hs
    split at h
    · rename_i hb
      split at h
      · rename_i after hafter
        rw [skipKey, skipSpace_extend hs]
        simp only [if_pos hb, skipText_extend hafter, colon_extend h]
      · cases h
    · cases h

theorem beforeValue_extend (h : beforeValue frame s = .ok rest) :
    beforeValue frame (s ++ more) = .ok (rest ++ more) := by
  cases frame with
  | list =>
      cases h
      rfl
  | object => exact skipKey_extend h

/-! ### Values -/

theorem skipScalar_extend (h : skipScalar s = .ok rest) (hrest : rest ≠ []) :
    skipScalar (s ++ more) = .ok (rest ++ more) := by
  cases s with
  | nil => cases h
  | cons b t =>
      rw [List.cons_append]
      simp only [skipScalar] at h ⊢
      by_cases hn : b = octet 'n'
      · rw [if_pos hn] at h ⊢
        exact word_extend h
      rw [if_neg hn] at h ⊢
      by_cases ht : b = octet 't'
      · rw [if_pos ht] at h ⊢
        exact word_extend h
      rw [if_neg ht] at h ⊢
      by_cases hf : b = octet 'f'
      · rw [if_pos hf] at h ⊢
        exact word_extend h
      rw [if_neg hf] at h ⊢
      by_cases hquote : b = octet '"'
      · rw [if_pos hquote] at h ⊢
        exact skipText_extend h
      rw [if_neg hquote] at h ⊢
      by_cases hnumber : (b = octet '-' || isDigit b) = true
      · rw [if_pos hnumber] at h ⊢
        exact skipNumber_extend h hrest
      · rw [if_neg hnumber] at h
        cases h

theorem ne_nil_of_skipFrom (h : skipFrom phase stack s = .ok rest) (hrest : rest ≠ []) :
    s ≠ [] := by
  have hlength := length_skipFrom h
  rintro rfl
  exact hrest (List.eq_nil_of_length_eq_zero (Nat.le_zero.mp hlength))

/-- **A value is passed over as if nothing followed its rest.** -/
theorem skipFrom_extend (h : skipFrom phase stack s = .ok rest) (hrest : rest ≠ []) :
    skipFrom phase stack (s ++ more) = .ok (rest ++ more) := by
  fun_induction skipFrom phase stack s with
  | case2 s stack b t hs hopens after hscalar ih =>
      rw [skipFrom_value, skipSpace_extend hs]
      have hafter := ne_nil_of_skipFrom h hrest
      have hscalar : skipScalar (b :: (t ++ more)) = .ok (after ++ more) :=
        skipScalar_extend hscalar hafter
      simp only [hopens, hscalar]
      exact ih h
  | case5 s stack b t hs frame hopens inner ht ih =>
      rw [skipFrom_value, skipSpace_extend hs]
      simp only [hopens, skipSpace_extend ht, if_pos]
      exact ih h
  | case6 s stack b t hs frame hopens c inner ht hc next hnext ih =>
      rw [skipFrom_value, skipSpace_extend hs]
      have hnext : beforeValue frame (c :: (inner ++ more)) = .ok (next ++ more) :=
        beforeValue_extend hnext
      simp only [hopens, skipSpace_extend ht, if_neg hc, hnext]
      exact ih h
  | case8 s =>
      cases h
      rw [skipFrom_done]
  | case10 s frame stack t next hnext hs ih =>
      rw [skipFrom_afterValue, skipSpace_extend hs]
      simp only [if_pos, beforeValue_extend hnext]
      exact ih h
  | case12 s frame stack t hs hb ih =>
      rw [skipFrom_afterValue, skipSpace_extend hs]
      simp only [if_neg hb, if_pos]
      exact ih h
  | _ => cases h

theorem skipValue_extend (h : skipValue s = .ok rest) (hrest : rest ≠ []) :
    skipValue (s ++ more) = .ok (rest ++ more) :=
  skipFrom_extend h hrest

end FrontDoor.Json
