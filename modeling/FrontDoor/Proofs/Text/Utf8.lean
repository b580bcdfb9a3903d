/-
Where the characters of a text of octets begin.

In UTF-8 the first octet of a character is never one of its later ones, so a text of octets says
itself where its characters begin (`first_of_utf8EncodeChar`, `later_of_utf8EncodeChar`), and it
is spelled by one string only (`toString?_eq_some_iff`, `utf8EncodeChar_append_inj`).  All octets
of ASCII are first ones.
-/
import FrontDoor.Proofs.Text.Ascii

namespace FrontDoor.Text

variable {b : UInt8} {o s t : Bytes} {c d : Char}

/-! ### Octets of a string -/

/-- The octets spell the string of which they are the octets. -/
theorem toString?_eq_some_iff {s : String} :
    Bytes.toString? o = some s ↔ o = s.toList.flatMap String.utf8EncodeChar := by
  rw [← ofString_eq, Bytes.toString?, String.fromUTF8?]
  constructor
  · intro h
    split at h
    · obtain rfl := Option.some.inj h
      rfl
    · cases h
  · intro h
    have hbytes : (⟨⟨o⟩⟩ : ByteArray) = s.toByteArray := by
      rw [h]
      rfl
    rw [dif_pos (by rw [hbytes]; exact s.isValidUTF8)]
    congr 1
    rw [← String.toByteArray_inj]
    exact hbytes

/-! ### First octets -/

theorem first_of_ascii (h : b < 0x80) : b.IsUTF8FirstByte := by
  have hall : ∀ n < 128, (UInt8.ofNat n).IsUTF8FirstByte := by decide
  have hb := hall b.toNat (UInt8.lt_iff_toNat_lt.mp h)
  rwa [UInt8.ofNat_toNat] at hb

theorem first_of_utf8EncodeChar (h : String.utf8EncodeChar c = b :: t) : b.IsUTF8FirstByte := by
  have hfirst := UInt8.isUTF8FirstByte_getElem_zero_utf8EncodeChar (c := c)
  simpa only [h, List.getElem_cons_zero] using hfirst

theorem later_of_utf8EncodeChar (h : String.utf8EncodeChar c = b :: t) :
    ∀ x ∈ t, ¬x.IsUTF8FirstByte := by
  intro x hx hfirst
  obtain ⟨i, hi, rfl⟩ := List.getElem_of_mem hx
  have hlength : i + 1 < (String.utf8EncodeChar c).length := by
    rw [h, List.length_cons]
    exact Nat.succ_lt_succ hi
  have hlater : (String.utf8EncodeChar c)[i + 1].IsUTF8FirstByte ↔ i + 1 = 0 :=
    UInt8.isUTF8FirstByte_getElem_utf8EncodeChar
  simp only [h, List.getElem_cons_succ] at hlater
  exact absurd (hlater.mp hfirst) (Nat.succ_ne_zero i)

/-- The character in front and what follows it are told by the octets. -/
theorem utf8EncodeChar_append_inj
    (h : String.utf8EncodeChar c ++ s = String.utf8EncodeChar d ++ t) : c = d ∧ s = t := by
  have hbytes := congrArg List.toByteArray h
  rw [List.toByteArray_append, List.toByteArray_append] at hbytes
  have hc := ByteArray.utf8DecodeChar?_utf8EncodeChar_append (c := c) (b := s.toByteArray)
  rw [hbytes, ByteArray.utf8DecodeChar?_utf8EncodeChar_append] at hc
  obtain rfl := Option.some.inj hc
  exact ⟨rfl, List.append_cancel_left h⟩

/-- An octet of ASCII in front is the first character and all of it. -/
theorem eq_of_ascii (hb : b < 0x80) (h : String.utf8EncodeChar c ++ s = b :: t) :
    c = Char.ofNat b.toNat ∧ s = t := by
  have hone : ∀ n < 128, String.utf8EncodeChar (Char.ofNat n) = [UInt8.ofNat n] := by decide
  have hb' := hone b.toNat (UInt8.lt_iff_toNat_lt.mp hb)
  rw [UInt8.ofNat_toNat] at hb'
  refine utf8EncodeChar_append_inj ?_
  rw [h, hb', List.singleton_append]

/-- An octet of ASCII in a character is all of it. -/
theorem eq_of_mem_utf8EncodeChar (hb : b < 0x80) (h : b ∈ String.utf8EncodeChar c) :
    c = Char.ofNat b.toNat := by
  cases henc : String.utf8EncodeChar c with
  | nil => exact absurd henc String.utf8EncodeChar_ne_nil
  | cons x t =>
      rw [henc] at h
      rcases List.mem_cons.mp h with rfl | hlater
      · exact (eq_of_ascii (s := []) hb (by rw [henc, List.append_nil])).1
      · exact absurd (first_of_ascii hb) (later_of_utf8EncodeChar henc b hlater)

/-! ### Code points -/

theorem toNat_ofNat {n : Nat} (h : n.isValidChar) : (Char.ofNat n).toNat = n := by
  rw [Char.ofNat, dif_pos h]
  rfl

/-- The octets of a text have a property of ASCII exactly if its characters have it. -/
theorem forall_mem_ofString_iff {P : Nat → Prop} (hP : ∀ n, P n → n < 128) {s : String} :
    (∀ b ∈ Bytes.ofString s, P b.toNat) ↔ ∀ c ∈ s.toList, P c.toNat := by
  rw [ofString_eq]
  constructor
  · intro h c hc
    obtain ⟨b, t, hcode⟩ := List.exists_cons_of_ne_nil (String.utf8EncodeChar_ne_nil (c := c))
    have hfirst : b ∈ String.utf8EncodeChar c := by
      rw [hcode]
      exact List.mem_cons_self
    have hb : P b.toNat := h b (List.mem_flatMap.mpr ⟨c, hc, hfirst⟩)
    have hascii : b.toNat < 128 := hP _ hb
    rw [eq_of_mem_utf8EncodeChar (UInt8.lt_iff_toNat_lt.mpr hascii) hfirst,
      toNat_ofNat (.inl (by omega))]
    exact hb
  · intro h b hb
    obtain ⟨c, hc, hcode⟩ := List.mem_flatMap.mp hb
    have hascii : c.toNat < 128 := hP _ (h c hc)
    rw [utf8EncodeChar_of_ascii hascii] at hcode
    obtain rfl := List.mem_singleton.mp hcode
    rw [UInt8.toNat_ofNat', Nat.mod_eq_of_lt (by omega)]
    exact h c hc

end FrontDoor.Text
