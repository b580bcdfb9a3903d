/-
Reading a string.

The reader gathers octets and asks only at the closing quote whether they are a text, while a
string is written character by character.  `WrittenOctets` is what lies between: the octets that
the content of a string says, escape by escape.  The reader follows it step by step
(`octetsFrom_eq_ok_iff`).  That it comes to the same as writing characters is a fact about UTF-8.
An escape says whole characters, so a character whose first octet stands there as it is has all of
them there (`exists_of_later`), and the content can be cut into characters where the octets can
(`writtenText_of_octets`).

So `text_eq_ok_iff` says of every document which text is read from it, and `skipText_eq_ok_iff`
when there is only a form to be read.
-/
import FrontDoor.Proofs.Json.Grammar
import FrontDoor.Proofs.Text.Utf8

namespace FrontDoor.Json

open Text (first_of_ascii first_of_utf8EncodeChar later_of_utf8EncodeChar
  utf8EncodeChar_append_inj utf8EncodeChar_of_ascii eq_of_ascii eq_of_mem_utf8EncodeChar
  toNat_ofNat)

variable {s rest o octets body : Bytes} {b : UInt8} {c : Char} {cs : List Char} {lead? : Option Nat}

/-! ### Digits and letters -/

/-- A property of all octets, checked one by one. -/
theorem octet_forall {P : UInt8 → Prop} (h : ∀ n < 256, P (UInt8.ofNat n)) (b : UInt8) : P b := by
  have hb := h b.toNat b.toNat_lt
  rwa [UInt8.ofNat_toNat] at hb

instance (n : Nat) (b : UInt8) : Decidable (IsHexDigit n b) :=
  inferInstanceAs (Decidable (_ ∧ _))

theorem hexDigit?_eq_some_iff {n : Nat} : hexDigit? b = some n ↔ IsHexDigit n b := by
  constructor
  · intro h
    have hall := octet_forall (P := fun b => ∀ n ∈ hexDigit? b, IsHexDigit n b)
      (by decide +kernel) b
    exact hall n h
  · intro h
    have hall : ∀ n < 16, hexDigit? (octet (Nat.digitChar n)) = some n ∧
        hexDigit? (octet (Nat.digitChar n).toUpper) = some n := by
      decide +kernel
    obtain ⟨hn, rfl | rfl⟩ := h
    · exact (hall n hn).1
    · exact (hall n hn).2

theorem hex4?_eq_some_iff {n : Nat} {b₁ b₂ b₃ b₄ : UInt8} :
    hex4? b₁ b₂ b₃ b₄ = some n ↔ WrittenHex n [b₁, b₂, b₃, b₄] := by
  simp only [hex4?, bind, Option.bind_eq_some_iff, pure, Option.some.injEq, hexDigit?_eq_some_iff]
  constructor
  · intro h
    obtain ⟨n₁, h₁, n₂, h₂, n₃, h₃, n₄, h₄, rfl⟩ := h
    exact .digits h₁ h₂ h₃ h₄
  · intro h
    cases h with
    | digits h₁ h₂ h₃ h₄ => exact ⟨_, h₁, _, h₂, _, h₃, _, h₄, rfl⟩

theorem exists_of_writtenHex {n : Nat} {digits : Bytes} (h : WrittenHex n digits) :
    ∃ b₁ b₂ b₃ b₄, digits = [b₁, b₂, b₃, b₄] := by
  cases h
  exact ⟨_, _, _, _, rfl⟩

theorem shortEscape?_eq_some_iff {x : UInt8} :
    shortEscape? b = some x ↔
      ∃ letter c, (letter, c) ∈ shortEscapes ∧ b = octet letter ∧ x = octet c := by
  constructor
  · intro h
    have hlisted : ∃ p ∈ shortEscapes, b = octet p.1 ∧ x = octet p.2 := by
      simp only [shortEscape?, Bool.or_eq_true, beq_iff_eq] at h
      split at h
      · rename_i hb
        obtain rfl := Option.some.inj h
        obtain (rfl | rfl) | rfl := hb <;> decide
      · repeat' split at h
        all_goals cases h <;> subst_vars <;> decide
    obtain ⟨⟨letter, c⟩, hmem, hb, hx⟩ := hlisted
    exact ⟨letter, c, hmem, hb, hx⟩
  · intro h
    obtain ⟨letter, c, hmem, rfl, rfl⟩ := h
    have hall : ∀ p ∈ shortEscapes, shortEscape? (octet p.1) = some (octet p.2) := by
      decide +kernel
    exact hall (letter, c) hmem

/-! ### Only the form -/

theorem skipText_plain (h : IsPlain b) : skipText (b :: s) = skipText s := by
  obtain ⟨hspace, hquote, hbackslash⟩ := h
  rw [skipText.eq_def]
  simp only [if_neg hbackslash, if_neg hquote, if_neg (UInt8.not_lt.mpr hspace)]

theorem skipText_short {letter : Char} (h : (letter, c) ∈ shortEscapes) :
    skipText (octet '\\' :: octet letter :: s) = skipText s := by
  have hu : ∀ p ∈ shortEscapes, octet p.1 ≠ octet 'u' := by decide
  have hshort := shortEscape?_eq_some_iff.mpr ⟨letter, c, h, rfl, rfl⟩
  rw [skipText.eq_def]
  simp only [if_pos, if_neg (hu (letter, c) h), hshort, Option.isSome_some]

theorem skipText_escape {n : Nat} {digits : Bytes} (h : WrittenHex n digits) :
    skipText (escape digits ++ s) = skipText s := by
  obtain ⟨b₁, b₂, b₃, b₄, rfl⟩ := exists_of_writtenHex h
  simp [escape, skipText, hex4?_eq_some_iff.mpr h]

theorem skipText_append (h : IsText body) : skipText (body ++ octet '"' :: rest) = .ok rest := by
  induction h with
  | nil =>
      rw [List.nil_append, skipText.eq_def]
      rfl
  | plain plain tail ih => rw [List.cons_append, skipText_plain plain, ih]
  | short named tail ih => rw [List.cons_append, List.cons_append, skipText_short named, ih]
  | escaped number tail ih => rw [List.append_assoc, skipText_escape number, ih]

theorem isPlain_of_not {b : UInt8} (hbackslash : ¬b = octet '\\') (hquote : ¬b = octet '"')
    (hspace : ¬b < 0x20) : IsPlain b :=
  ⟨UInt8.not_lt.mp hspace, hquote, hbackslash⟩

/-- What is passed over as a string is the content of one and its closing quote. -/
theorem skipText_eq_ok_iff :
    skipText s = .ok rest ↔ ∃ body, s = body ++ octet '"' :: rest ∧ IsText body := by
  constructor
  · intro h
    fun_induction skipText s with
    | case3 b₁ b₂ b₃ b₄ t hhex ih =>
        obtain ⟨n, hn⟩ := Option.isSome_iff_exists.mp hhex
        obtain ⟨body, rfl, hbody⟩ := ih h
        exact ⟨_, rfl, .escaped (hex4?_eq_some_iff.mp hn) hbody⟩
    | case6 e t hu hshort ih =>
        obtain ⟨x, hx⟩ := Option.isSome_iff_exists.mp hshort
        obtain ⟨letter, c, hmem, rfl, -⟩ := shortEscape?_eq_some_iff.mp hx
        obtain ⟨body, rfl, hbody⟩ := ih h
        exact ⟨_, rfl, .short hmem hbody⟩
    | case8 t hbackslash =>
        cases h
        exact ⟨[], rfl, .nil⟩
    | case10 b t hbackslash hquote hspace ih =>
        obtain ⟨body, rfl, hbody⟩ := ih h
        exact ⟨_, rfl, .plain (isPlain_of_not hbackslash hquote hspace) hbody⟩
    | _ => cases h
  · intro hgiven
    obtain ⟨body, rfl, hbody⟩ := hgiven
    exact skipText_append hbody

/-! ### The octets that a string says -/

/-- The octets that are said between quotes, where the first half of a surrogate pair may have
been said before. -/
inductive WrittenOctets : Option Nat → Bytes → Bytes → Prop
  | nil : WrittenOctets none [] []
  | plain {b : UInt8} {o s : Bytes} (plain : IsPlain b) (tail : WrittenOctets none o s) :
      WrittenOctets none (b :: o) (b :: s)
  | short {letter c : Char} {o s : Bytes} (named : (letter, c) ∈ shortEscapes)
      (tail : WrittenOctets none o s) :
      WrittenOctets none (octet c :: o) (octet '\\' :: octet letter :: s)
  | escaped {lead? lead'? : Option Nat} {n : Nat} {digits made o s : Bytes}
      (number : WrittenHex n digits) (said : unit? lead? n = some (made, lead'?))
      (tail : WrittenOctets lead'? o s) : WrittenOctets lead? (made ++ o) (escape digits ++ s)

theorem octetsFrom_append (h : WrittenOctets lead? o body) (taken : Bytes) :
    octetsFrom lead? taken (body ++ octet '"' :: rest) = .ok (taken.reverse ++ o, rest) := by
  induction h generalizing taken with
  | nil =>
      rw [List.nil_append, octetsFrom.eq_def, List.append_nil]
      rfl
  | @plain b o s plain tail ih =>
      obtain ⟨hspace, hquote, hbackslash⟩ := plain
      rw [List.cons_append, octetsFrom.eq_def]
      simp only [if_neg hbackslash, if_neg hquote, if_neg (UInt8.not_lt.mpr hspace), ih]
      simp
  | @short letter c o s named tail ih =>
      have hu : ∀ p ∈ shortEscapes, octet p.1 ≠ octet 'u' := by decide
      have hshort := shortEscape?_eq_some_iff.mpr ⟨letter, c, named, rfl, rfl⟩
      rw [List.cons_append, List.cons_append, octetsFrom.eq_def]
      simp only [if_pos, if_neg (hu (letter, c) named), hshort, ih]
      simp
  | @escaped lead? lead'? n digits made o s number said tail ih =>
      obtain ⟨b₁, b₂, b₃, b₄, rfl⟩ := exists_of_writtenHex number
      rw [List.append_assoc, escape, octetsFrom.eq_def]
      simp only [List.cons_append, List.nil_append, if_pos, hex4?_eq_some_iff.mpr number,
        Option.bind_some, said, ih]
      simp

/-- What is read as a string are the octets that it says. -/
theorem octetsFrom_eq_ok_iff {taken : Bytes} :
    octetsFrom lead? taken s = .ok (octets, rest) ↔
      ∃ body o, s = body ++ octet '"' :: rest ∧ octets = taken.reverse ++ o ∧
        WrittenOctets lead? o body := by
  constructor
  · intro h
    fun_induction octetsFrom lead? taken s with
    | case3 lead? taken b₁ b₂ b₃ b₄ t made lead'? hunit ih =>
        obtain ⟨n, hn, hsaid⟩ := Option.bind_eq_some_iff.mp hunit
        obtain ⟨body, o, rfl, rfl, hbody⟩ := ih h
        refine ⟨_, made ++ o, rfl, ?_, .escaped (hex4?_eq_some_iff.mp hn) hsaid hbody⟩
        rw [List.reverse_append, List.reverse_reverse, List.append_assoc]
    | case6 taken e t hu x hshort ih =>
        obtain ⟨letter, c, hmem, rfl, rfl⟩ := shortEscape?_eq_some_iff.mp hshort
        obtain ⟨body, o, rfl, rfl, hbody⟩ := ih h
        exact ⟨_, octet c :: o, rfl, by simp, .short hmem hbody⟩
    | case9 lead? taken t hlead hbackslash =>
        cases h
        rw [Option.not_isSome_iff_eq_none] at hlead
        subst hlead
        exact ⟨[], [], rfl, by simp, .nil⟩
    | case11 lead? taken b t hbackslash hlead hquote hspace ih =>
        rw [Option.not_isSome_iff_eq_none] at hlead
        subst hlead
        obtain ⟨body, o, rfl, rfl, hbody⟩ := ih h
        exact ⟨_, b :: o, rfl, by simp,
          .plain (isPlain_of_not hbackslash hquote hspace) hbody⟩
    | _ => cases h
  · intro hgiven
    obtain ⟨body, o, rfl, rfl, hbody⟩ := hgiven
    exact octetsFrom_append hbody taken

/-! ### From characters to octets -/

theorem not_surrogate (c : Char) : isLead c.toNat = false ∧ isTrail c.toNat = false := by
  have hvalid : c.toNat < 0xD800 ∨ 0xDFFF < c.toNat ∧ c.toNat < 0x110000 := c.valid
  constructor <;> simp only [isLead, isTrail, Bool.and_eq_false_iff, decide_eq_false_iff_not] <;>
    omega

theorem codePoint_toNat (c : Char) : codePoint c.toNat = String.utf8EncodeChar c := by
  rw [codePoint, Char.ofNat_toNat]

/-- A character that may stand in a string has no octet that may not. -/
theorem isPlain_of_mem (visible : 0x20 ≤ c.toNat) (quote : c ≠ '"') (backslash : c ≠ '\\')
    (h : b ∈ String.utf8EncodeChar c) : IsPlain b := by
  by_cases hb : b < 0x80
  · obtain rfl := eq_of_mem_utf8EncodeChar hb h
    refine ⟨?_, ?_, ?_⟩
    · rw [toNat_ofNat (.inl (by have := b.toNat_lt; omega))] at visible
      exact UInt8.le_iff_toNat_le.mpr visible
    · rintro rfl
      exact quote rfl
    · rintro rfl
      exact backslash rfl
  · have hhigh : 0x80 ≤ b := UInt8.not_lt.mp hb
    refine ⟨?_, ?_, ?_⟩
    · exact UInt8.le_trans (by decide) hhigh
    · rintro rfl
      exact hb (by decide)
    · rintro rfl
      exact hb (by decide)

theorem WrittenOctets.plain_append {p : Bytes} (h : ∀ b ∈ p, IsPlain b)
    (tail : WrittenOctets none o s) : WrittenOctets none (p ++ o) (p ++ s) := by
  induction p with
  | nil => exact tail
  | cons b p ih =>
      obtain ⟨hb, hp⟩ := List.forall_mem_cons.mp h
      exact .plain hb (ih hp)

theorem octets_of_writtenChar {p : Bytes} (h : WrittenChar c p) (tail : WrittenOctets none o s) :
    WrittenOctets none (String.utf8EncodeChar c ++ o) (p ++ s) := by
  cases h with
  | plain visible quote backslash =>
      exact tail.plain_append fun b hb => isPlain_of_mem visible quote backslash hb
  | @short letter named =>
      have hone : ∀ p ∈ shortEscapes, String.utf8EncodeChar p.2 = [octet p.2] := by decide
      rw [hone (letter, c) named]
      exact .short named tail
  | escaped number =>
      rw [← codePoint_toNat]
      refine .escaped number ?_ tail
      obtain ⟨hlead, htrail⟩ := not_surrogate c
      simp [unit?, hlead, htrail]
  | @pair lead trail digits digits' front back isLead' isTrail' number =>
      have hlead : isLead lead = true := by simpa [isLead] using isLead'
      have htrail : isTrail trail = true := by simpa [isTrail] using isTrail'
      have hpair : codePoint (pairValue lead trail) = String.utf8EncodeChar c := by
        rw [← codePoint_toNat c, number]
        rfl
      have hback : unit? (some lead) trail = some (String.utf8EncodeChar c, none) := by
        simp only [unit?, if_pos htrail, hpair]
      rw [List.append_assoc, ← List.nil_append (_ ++ o)]
      exact .escaped front (by simp only [unit?, if_pos hlead]) (.escaped back hback tail)

theorem octets_of_writtenText (h : WrittenText cs body) :
    WrittenOctets none (cs.flatMap String.utf8EncodeChar) body := by
  induction h with
  | nil => exact .nil
  | cons head tail ih =>
      rw [List.flatMap_cons]
      exact octets_of_writtenChar head ih

/-- A text of characters that may stand as they are may be written as it is. -/
theorem writtenText_plain (h : ∀ c ∈ cs, 0x20 ≤ c.toNat ∧ c ≠ '"' ∧ c ≠ '\\') :
    WrittenText cs (cs.flatMap String.utf8EncodeChar) := by
  induction cs with
  | nil => exact .nil
  | cons c cs ih =>
      obtain ⟨⟨visible, quote, backslash⟩, hcs⟩ := List.forall_mem_cons.mp h
      exact .cons (.plain visible quote backslash) (ih hcs)

/-! ### From octets to characters -/

theorem toNat_codePoint {n : Nat} (hlead : isLead n = false) (htrail : isTrail n = false)
    (h : n < 0x110000) : (Char.ofNat n).toNat = n := by
  refine toNat_ofNat ?_
  simp only [isLead, isTrail, Bool.and_eq_false_iff, decide_eq_false_iff_not] at hlead htrail
  rcases hlead with hlead | hlead
  · exact .inl (by omega)
  · exact .inr ⟨by omega, h⟩

theorem lt_of_writtenHex {n : Nat} {digits : Bytes} (h : WrittenHex n digits) : n < 0x10000 := by
  cases h with
  | digits h₁ h₂ h₃ h₄ =>
      have := h₁.1
      have := h₂.1
      have := h₃.1
      have := h₄.1
      omega

theorem isValidChar_pairValue {lead trail : Nat} (hlead : 0xD800 ≤ lead ∧ lead ≤ 0xDBFF)
    (htrail : 0xDC00 ≤ trail ∧ trail ≤ 0xDFFF) : (pairValue lead trail).isValidChar := by
  have h : 0xDFFF < pairValue lead trail ∧ pairValue lead trail < 0x110000 := by
    unfold pairValue
    omega
  exact .inr h

/-- Behind the first half of a surrogate pair there is its second. -/
theorem pair_of_octets {lead : Nat} {digits : Bytes} (front : WrittenHex lead digits)
    (hlead : isLead lead = true) (h : WrittenOctets (some lead) octets s) :
    ∃ c p o t, WrittenChar c p ∧ octets = String.utf8EncodeChar c ++ o ∧
      escape digits ++ s = p ++ t ∧ WrittenOctets none o t := by
  cases h with
  | @escaped _ _ trail digits' made o t back said tail =>
      simp only [unit?] at said
      split at said
      · rename_i htrail
        simp only [Option.some.injEq, Prod.mk.injEq] at said
        obtain ⟨rfl, rfl⟩ := said
        have hlead : 0xD800 ≤ lead ∧ lead ≤ 0xDBFF := by simpa [isLead] using hlead
        have htrail : 0xDC00 ≤ trail ∧ trail ≤ 0xDFFF := by simpa [isTrail] using htrail
        have hvalid := isValidChar_pairValue hlead htrail
        refine ⟨Char.ofNat (pairValue lead trail), _, o, t,
          .pair front back hlead htrail (toNat_ofNat hvalid), rfl, ?_, tail⟩
        rw [List.append_assoc]
      · cases said

/-- A string says nothing, or begins with an octet that stands there as it is, or with a character
that is escaped. -/
theorem cases_of_octets (h : WrittenOctets none octets body) :
    (octets = [] ∧ body = []) ∨
    (∃ b o s, IsPlain b ∧ octets = b :: o ∧ body = b :: s ∧ WrittenOctets none o s) ∨
    ∃ c p o s, WrittenChar c p ∧ octets = String.utf8EncodeChar c ++ o ∧ body = p ++ s ∧
      WrittenOctets none o s := by
  cases h with
  | nil => exact .inl ⟨rfl, rfl⟩
  | plain plain tail => exact .inr (.inl ⟨_, _, _, plain, rfl, rfl, tail⟩)
  | @short letter c o s named tail =>
      have hone : ∀ p ∈ shortEscapes, [octet p.2] = String.utf8EncodeChar p.2 := by decide
      refine .inr (.inr ⟨c, _, o, s, .short named, ?_, rfl, tail⟩)
      rw [← hone (letter, c) named, List.singleton_append]
  | @escaped _ lead'? n digits made o s number said tail =>
      refine .inr (.inr ?_)
      simp only [unit?] at said
      split at said
      · rename_i hlead
        cases said
        exact pair_of_octets number hlead tail
      · rename_i hlead
        split at said
        · cases said
        · rename_i htrail
          cases said
          rw [Bool.not_eq_true] at hlead htrail
          have hn := toNat_codePoint hlead htrail
            (Nat.lt_trans (lt_of_writtenHex number) (by decide))
          refine ⟨Char.ofNat n, _, o, s, .escaped ?_, rfl, rfl, tail⟩
          rwa [hn]

/-- Octets that cannot begin a character stand in the string as they are: an escape in their place
would begin one. -/
theorem exists_of_later {later : Bytes} (hlater : ∀ x ∈ later, ¬x.IsUTF8FirstByte)
    (h : WrittenOctets none (later ++ o) body) :
    ∃ s, body = later ++ s ∧ WrittenOctets none o s := by
  induction later generalizing body with
  | nil => exact ⟨body, rfl, h⟩
  | cons x later ih =>
      obtain ⟨hx, hlater⟩ := List.forall_mem_cons.mp hlater
      rcases cases_of_octets h with ⟨ho, -⟩ | ⟨b, o', s, -, ho, rfl, htail⟩ |
        ⟨c, p, o', s, -, ho, -⟩
      · cases ho
      · obtain ⟨rfl, rfl⟩ := List.cons.inj ho
        obtain ⟨s, rfl, hs⟩ := ih hlater htail
        exact ⟨s, rfl, hs⟩
      · cases henc : String.utf8EncodeChar c with
        | nil => exact absurd henc String.utf8EncodeChar_ne_nil
        | cons y t =>
            rw [henc] at ho
            obtain ⟨rfl, -⟩ := List.cons.inj ho
            exact absurd (first_of_utf8EncodeChar henc) hx

/-- A character whose first octet may stand in a string as it is may so itself. -/
theorem visible_of_isPlain (henc : String.utf8EncodeChar c = b :: s) (hb : IsPlain b) :
    0x20 ≤ c.toNat ∧ c ≠ '"' ∧ c ≠ '\\' := by
  obtain ⟨hspace, hquote, hbackslash⟩ := hb
  by_cases hascii : b < 0x80
  · have hc := (eq_of_ascii (s := []) hascii (by rw [List.append_nil, henc])).1
    refine ⟨?_, ?_, ?_⟩
    · rw [hc, toNat_ofNat (.inl (by have := b.toNat_lt; omega))]
      exact UInt8.le_iff_toNat_le.mp hspace
    · rintro rfl
      exact hquote (List.cons.inj henc).1.symm
    · rintro rfl
      exact hbackslash (List.cons.inj henc).1.symm
  · have hc : 0x80 ≤ c.toNat := by
      by_contra hlow
      have hlow : c.toNat < 128 := Nat.not_le.mp hlow
      rw [utf8EncodeChar_of_ascii hlow] at henc
      obtain ⟨rfl, -⟩ := List.cons.inj henc
      refine hascii (UInt8.lt_iff_toNat_lt.mpr ?_)
      rwa [UInt8.toNat_ofNat_of_lt' (Nat.lt_trans hlow (by decide))]
    refine ⟨Nat.le_trans (by decide) hc, ?_, ?_⟩
    · rintro rfl
      exact absurd hc (by decide)
    · rintro rfl
      exact absurd hc (by decide)

/-- A string that says the octets of some characters is written character by character. -/
theorem writtenText_of_octets (h : WrittenOctets none (cs.flatMap String.utf8EncodeChar) body) :
    WrittenText cs body := by
  induction cs generalizing body with
  | nil =>
      rcases cases_of_octets h with ⟨-, rfl⟩ | ⟨b, o, s, -, ho, -⟩ | ⟨c, p, o, s, -, ho, -⟩
      · exact .nil
      · cases ho
      · exact absurd (List.append_eq_nil_iff.mp ho.symm).1 String.utf8EncodeChar_ne_nil
  | cons d cs ih =>
      rw [List.flatMap_cons] at h
      rcases cases_of_octets h with ⟨ho, -⟩ | ⟨b, o, s, hb, ho, rfl, htail⟩ |
        ⟨c, p, o, s, hc, ho, rfl, htail⟩
      · exact absurd (List.append_eq_nil_iff.mp ho).1 String.utf8EncodeChar_ne_nil
      · cases henc : String.utf8EncodeChar d with
        | nil => exact absurd henc String.utf8EncodeChar_ne_nil
        | cons x t =>
            rw [henc] at ho
            obtain ⟨rfl, rfl⟩ := List.cons.inj ho
            obtain ⟨s, rfl, hs⟩ := exists_of_later (later_of_utf8EncodeChar henc) htail
            obtain ⟨visible, quote, backslash⟩ := visible_of_isPlain henc hb
            rw [← List.cons_append, ← henc]
            exact .cons (.plain visible quote backslash) (ih hs)
      · obtain ⟨rfl, rfl⟩ := utf8EncodeChar_append_inj ho
        exact .cons hc (ih htail)

/-! ### The reader -/

/-- The content of a string that says a text has the form of one. -/
theorem WrittenOctets.isText (h : WrittenOctets lead? o body) : IsText body := by
  induction h with
  | nil => exact .nil
  | plain plain tail ih => exact .plain plain ih
  | short named tail ih => exact .short named ih
  | escaped number said tail ih => exact .escaped number ih

theorem isText_of_writtenText (h : WrittenText cs body) : IsText body :=
  (octets_of_writtenText h).isText

/-- **What is read from a string.**  A text is read where one is written, character by character,
in front of a closing quote, and what follows the quote is left. -/
theorem text_eq_ok_iff {value : String} :
    text s = .ok (value, rest) ↔
      ∃ body, s = body ++ octet '"' :: rest ∧ WrittenText value.toList body := by
  have hread : text s = .ok (value, rest) ↔ ∃ octets, octetsFrom none [] s = .ok (octets, rest) ∧
      Bytes.toString? octets = some value := by
    rw [text]
    constructor
    · intro h
      split at h
      · cases h
      · rename_i octets rest' hoctets
        split at h
        · rename_i value' hvalue
          cases h
          exact ⟨octets, hoctets, hvalue⟩
        · cases h
    · rintro ⟨octets, hoctets, hvalue⟩
      simp only [hoctets, hvalue]
  rw [hread]
  simp only [octetsFrom_eq_ok_iff, Text.toString?_eq_some_iff, List.reverse_nil, List.nil_append]
  constructor
  · rintro ⟨octets, ⟨body, o, rfl, rfl, hbody⟩, rfl⟩
    exact ⟨body, rfl, writtenText_of_octets hbody⟩
  · rintro ⟨body, rfl, hbody⟩
    exact ⟨_, ⟨body, _, rfl, rfl, octets_of_writtenText hbody⟩, rfl⟩

end FrontDoor.Json
