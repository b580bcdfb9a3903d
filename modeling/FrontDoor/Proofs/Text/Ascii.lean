/-
Characters of ASCII.

There are 128 of them, so what is to hold of each is checked one by one (`ascii_forall`).  Lower
case changes letters of ASCII only and makes letters of ASCII of them, so a text keeps its size in
lower case; and in UTF-8 a text of ASCII has one octet for each character.
-/
import Mathlib
import FrontDoor.Text.Bytes

namespace FrontDoor.Text

variable {c : Char}

/-- A property of all characters of ASCII, checked one by one. -/
theorem ascii_forall {P : Char → Prop} (h : ∀ n < 128, P (Char.ofNat n)) (hc : c.toNat < 128) :
    P c := by
  have hvalue := h c.toNat hc
  rwa [Char.ofNat_toNat] at hvalue

theorem toNat_lt_of_isAlphanum (h : c.isAlphanum = true) : c.toNat < 128 := by
  have hranges : ((65 ≤ c.toNat ∧ c.toNat ≤ 90) ∨ (97 ≤ c.toNat ∧ c.toNat ≤ 122)) ∨
      (48 ≤ c.toNat ∧ c.toNat ≤ 57) := by
    simpa [Char.isAlphanum, Char.isAlpha, Char.isUpper, Char.isLower, Char.isDigit,
      UInt32.le_iff_toNat_le] using h
  omega

theorem toNat_lt_of_isUpper (h : c.isUpper = true) : c.toNat < 128 :=
  toNat_lt_of_isAlphanum (by simp [Char.isAlphanum, Char.isAlpha, h])

/-! ### Lower case -/

/-- What is no letter comes from itself only. -/
theorem eq_of_toLower_eq {d : Char} (h : c.toLower = d) (hd : d.isLower = false) : c = d := by
  by_cases hupper : c.isUpper = true
  · have hlower := Char.isLower_toLower_eq_isAlpha c
    simp [h, hd, Char.isAlpha, hupper] at hlower
  · rwa [Char.toLower_eq_of_not_isUpper hupper] at h

theorem utf8Size_toLower (c : Char) : c.toLower.utf8Size = c.utf8Size := by
  by_cases hupper : c.isUpper = true
  · exact ascii_forall (P := fun c => c.toLower.utf8Size = c.utf8Size) (by decide +kernel)
      (toNat_lt_of_isUpper hupper)
  · rw [Char.toLower_eq_of_not_isUpper hupper]

theorem toList_toLower (s : String) : s.toLower.toList = s.toList.map Char.toLower :=
  String.toList_map

/-- A text without capitals is its own lower case. -/
theorem toLower_eq_self {s : String} (h : ∀ c ∈ s.toList, c.isUpper = false) : s.toLower = s := by
  have hsame : ∀ c ∈ s.toList, c.toLower = id c :=
    fun c hc => Char.toLower_eq_of_not_isUpper (Bool.eq_false_iff.mp (h c hc))
  rw [← String.toList_inj, toList_toLower, List.map_congr_left hsame, List.map_id]

/-- A text keeps its size in lower case. -/
theorem utf8ByteSize_toLower (s : String) : s.toLower.utf8ByteSize = s.utf8ByteSize := by
  have hlist (l : List Char) :
      (String.ofList (l.map Char.toLower)).utf8ByteSize = (String.ofList l).utf8ByteSize := by
    induction l with
    | nil => rfl
    | cons c l ih =>
        rw [String.utf8ByteSize_ofList, String.utf8ByteSize_ofList] at ih ⊢
        rw [List.map_cons, String.utf8Len_cons, String.utf8Len_cons, ih, utf8Size_toLower]
  have hs := hlist s.toList
  rwa [← toList_toLower, String.ofList_toList, String.ofList_toList] at hs

/-! ### Octets -/

/-- The octets of a text are those of its characters one after the other. -/
theorem ofString_eq (s : String) : Bytes.ofString s = s.toList.flatMap String.utf8EncodeChar := by
  rw [Bytes.ofString, String.toUTF8]
  conv_lhs => rw [← String.ofList_toList (s := s)]
  rw [String.toByteArray_ofList, List.utf8Encode, List.toList_data_toByteArray]

theorem utf8EncodeChar_of_ascii (h : c.toNat < 128) :
    String.utf8EncodeChar c = [UInt8.ofNat c.toNat] :=
  if_pos (Nat.le_of_lt_succ h)

/-- A character of ASCII in a text is one of its octets. -/
theorem mem_ofString_of_ascii {s : String} (hascii : c.toNat < 128) (h : c ∈ s.toList) :
    UInt8.ofNat c.toNat ∈ Bytes.ofString s := by
  rw [ofString_eq]
  refine List.mem_flatMap.mpr ⟨c, h, ?_⟩
  rw [utf8EncodeChar_of_ascii hascii]
  exact List.mem_singleton.mpr rfl

/-- A text of ASCII has the numbers of its characters for octets. -/
theorem ofString_of_ascii {s : String} (h : ∀ c ∈ s.toList, c.toNat < 128) :
    Bytes.ofString s = s.toList.map fun c => UInt8.ofNat c.toNat := by
  have hlist (l : List Char) (hl : ∀ c ∈ l, c.toNat < 128) :
      l.flatMap String.utf8EncodeChar = l.map fun c => UInt8.ofNat c.toNat := by
    induction l with
    | nil => rfl
    | cons c l ih =>
        obtain ⟨hc, hl⟩ := List.forall_mem_cons.mp hl
        rw [List.flatMap_cons, ih hl, utf8EncodeChar_of_ascii hc, List.map_cons,
          List.singleton_append]
  rw [ofString_eq, hlist s.toList h]

end FrontDoor.Text
