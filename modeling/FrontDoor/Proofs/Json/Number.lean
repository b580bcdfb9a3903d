/-
Reading a number.

A number has no octet that closes it, so it goes on as far as it can: the digits, the point and the
mark of an exponent that follow it would belong to it (`Closes`).  Apart from this its reader takes
just what is written as a number, whether it asks for the value (`number_eq_ok_iff`) or passes over
it (`skipNumber_eq_ok_iff`), since both read the same parts (`numeral`).

A number that stands for a field has digits only, and as long as their value is below 2 ^ 64
neither the limit of the significand nor that of binary64 is met (`reading_eq_natural_iff`).
-/
import FrontDoor.Proofs.Json.Grammar
import FrontDoor.Proofs.Text.Runs

namespace FrontDoor.Json

open Text (Stops stops_cons run_eq_iff bind_eq_ok_iff map_eq_ok_iff)

variable {s rest f e w ds : Bytes} {b : UInt8} {fraction? : Option Bytes}
  {exponent? : Option (Bool × Bytes)} {n : Numeral}

/-! ### What may follow a number -/

/-- What follows a number with these parts is none of it. -/
structure Closes (n : Numeral) (rest : Bytes) : Prop where
  digit : Stops isDigit rest
  point : n.fraction? = none → n.exponent? = none → Stops (· == octet '.') rest
  mark : n.exponent? = none → Stops isExponentMark rest

/-- Whether a number may go on with the octet. -/
def continues (b : UInt8) : Bool :=
  isDigit b || b == octet '.' || isExponentMark b

/-- No number goes on with what follows. -/
abbrev Ends (rest : Bytes) : Prop :=
  Stops continues rest

theorem not_continues (h : continues b = false) :
    isDigit b = false ∧ (b == octet '.') = false ∧ isExponentMark b = false := by
  simp only [continues, Bool.or_eq_false_iff] at h
  exact ⟨h.1.1, h.1.2, h.2⟩

theorem closes_of_ends (h : Ends rest) : Closes n rest where
  digit := fun b hb => (not_continues (h b hb)).1
  point := fun _ _ b hb => (not_continues (h b hb)).2.1
  mark := fun _ b hb => (not_continues (h b hb)).2.2

/-- Behind digits alone nothing may follow that goes on with a number. -/
theorem ends_of_closes (h : Closes n rest) (fraction : n.fraction? = none)
    (exponent : n.exponent? = none) : Ends rest := by
  intro b hb
  have hdigit := h.digit b hb
  have hpoint := h.point fraction exponent b hb
  have hmark := h.mark exponent b hb
  simp only [continues, hdigit, hpoint, hmark, Bool.or_false]

/-! ### The parts of a number -/

theorem someDigits_eq_ok_iff :
    someDigits s = .ok (ds, rest) ↔ s = ds ++ rest ∧ IsDigits ds ∧ Stops isDigit rest := by
  have hrun : digits s = ds ∧ afterDigits s = rest ↔ _ := run_eq_iff
  rw [someDigits]
  constructor
  · intro h
    split at h
    · cases h
    · rename_i hne
      obtain ⟨rfl, rfl⟩ := Prod.mk.inj (Except.ok.inj h)
      obtain ⟨hs, hds, hrest⟩ := hrun.mp ⟨rfl, rfl⟩
      exact ⟨hs, ⟨fun hempty => hne (List.isEmpty_iff.mpr hempty), hds⟩, hrest⟩
  · intro hgiven
    obtain ⟨hs, ⟨hne, hds⟩, hrest⟩ := hgiven
    obtain ⟨rfl, rfl⟩ := hrun.mpr ⟨hs, hds, hrest⟩
    rw [if_neg fun hempty => hne (List.isEmpty_iff.mp hempty)]

theorem isDigits_cons (hb : isDigit b = true) (hds : ∀ d ∈ ds, isDigit d = true) :
    IsDigits (b :: ds) :=
  ⟨List.cons_ne_nil b ds, List.forall_mem_cons.mpr ⟨hb, hds⟩⟩

theorem isDigit_zero : isDigit (octet '0') = true := by
  decide

theorem IsWhole.isDigits (h : IsWhole w) : IsDigits w := by
  rcases h with rfl | ⟨h, -⟩
  · exact isDigits_cons isDigit_zero (by simp)
  · exact h

theorem digits_eq_nil_iff : digits s = [] ↔ Stops isDigit s := by
  have hrun : digits s = [] ∧ afterDigits s = s ↔ _ := run_eq_iff
  constructor
  · intro h
    have hall : afterDigits s = s := by
      have hparts : digits s ++ afterDigits s = s := List.takeWhile_append_dropWhile
      rwa [h, List.nil_append] at hparts
    exact (hrun.mp ⟨h, hall⟩).2.2
  · intro h
    exact (hrun.mpr ⟨rfl, by simp, h⟩).1

theorem whole_eq_ok_iff :
    whole s = .ok (w, rest) ↔ s = w ++ rest ∧ IsWhole w ∧ Stops isDigit rest := by
  have hrun : digits s = w ∧ afterDigits s = rest ↔ _ := run_eq_iff
  constructor
  · intro h
    rw [whole.eq_def] at h
    split at h
    · cases h
    · rename_i d t
      split at h
      · cases h
      · rename_i hdigit
        split at h
        · rename_i hzero
          split at h
          · rename_i hnone
            obtain ⟨rfl, rfl⟩ := Prod.mk.inj (Except.ok.inj h)
            exact ⟨rfl, .inl (by rw [hzero]), digits_eq_nil_iff.mp (List.isEmpty_iff.mp hnone)⟩
          · cases h
        · rename_i hzero
          have hd : isDigit d = true := by simpa using hdigit
          obtain ⟨hw, hrest⟩ := Prod.mk.inj (Except.ok.inj h)
          obtain ⟨hs, hall, hstops⟩ := hrun.mp ⟨hw, hrest⟩
          have hcons : w = d :: t.takeWhile isDigit := by
            rw [← hw, digits, List.takeWhile_cons, if_pos hd]
          refine ⟨hs, .inr ⟨⟨?_, hall⟩, ?_⟩, hstops⟩
          · rw [hcons]
            exact List.cons_ne_nil _ _
          · rw [hcons]
            exact fun hhead => hzero (Option.some.inj hhead)
  · intro hgiven
    obtain ⟨hs, hw, hstops⟩ := hgiven
    rcases hw with rfl | ⟨⟨hne, hall⟩, hzero⟩
    · have hnone := digits_eq_nil_iff.mpr hstops
      rw [hs, List.singleton_append, whole]
      simp only [isDigit_zero, hnone]
      rfl
    · obtain ⟨d, t, rfl⟩ := List.exists_cons_of_ne_nil hne
      have hd := hall d List.mem_cons_self
      have hd0 : d ≠ octet '0' := fun h => hzero (by rw [h]; rfl)
      obtain ⟨hw, hrest⟩ := hrun.mpr ⟨hs, hall, hstops⟩
      rw [List.cons_append] at hs
      rw [hs] at hw hrest
      rw [hs, whole, if_neg hd0, hw, hrest, hd]
      rfl

/-- What may follow the fraction, or the place where one would be. -/
def ClosesFraction (fraction? : Option Bytes) (rest : Bytes) : Prop :=
  if fraction?.isSome then Stops isDigit rest else Stops (· == octet '.') rest

theorem fraction_eq_ok_iff :
    fraction s = .ok (fraction?, rest) ↔
      ∃ f, s = f ++ rest ∧ WrittenFraction fraction? f ∧ ClosesFraction fraction? rest := by
  constructor
  · intro h
    rw [fraction.eq_def] at h
    split at h
    · rename_i b t
      split at h
      · rename_i hpoint
        obtain ⟨⟨ds, rest'⟩, hds, hgiven⟩ := map_eq_ok_iff.mp h
        obtain ⟨rfl, rfl⟩ := Prod.mk.inj hgiven
        obtain ⟨rfl, hdigits, hstops⟩ := someDigits_eq_ok_iff.mp hds
        exact ⟨octet '.' :: ds, by rw [hpoint, List.cons_append], .some hdigits, hstops⟩
      · rename_i hpoint
        obtain ⟨rfl, rfl⟩ := Prod.mk.inj (Except.ok.inj h)
        exact ⟨[], rfl, .none, stops_cons (beq_false_of_ne hpoint)⟩
    · obtain ⟨rfl, rfl⟩ := Prod.mk.inj (Except.ok.inj h)
      exact ⟨[], rfl, .none, Text.stops_nil⟩
  · intro hgiven
    obtain ⟨f, rfl, hf, hcloses⟩ := hgiven
    cases hf with
    | none =>
        cases rest with
        | nil => rfl
        | cons b t =>
            have hpoint : (b == octet '.') = false := hcloses b rfl
            rw [List.nil_append, fraction, if_neg (ne_of_beq_false hpoint)]
    | @some ds hdigits =>
        rw [List.cons_append, fraction, if_pos rfl,
          someDigits_eq_ok_iff.mpr ⟨rfl, hdigits, hcloses⟩]
        rfl

/-- What may follow the exponent, or the place where one would be. -/
def ClosesExponent (exponent? : Option (Bool × Bytes)) (rest : Bytes) : Prop :=
  if exponent?.isSome then Stops isDigit rest else Stops isExponentMark rest

theorem isExponentMark_iff : isExponentMark b = true ↔ b = octet 'e' ∨ b = octet 'E' := by
  simp only [isExponentMark, Bool.or_eq_true, beq_iff_eq]

/-- Only a digit may follow the sign of an exponent. -/
theorem exponentSign_of_digits {negative : Bool} {sign : Bytes} (hsign : WrittenSign negative sign)
    (hds : IsDigits ds) : exponentSign (sign ++ (ds ++ rest)) = (negative, ds ++ rest) := by
  obtain ⟨hne, hall⟩ := hds
  cases hsign with
  | none =>
      obtain ⟨d, t, rfl⟩ := List.exists_cons_of_ne_nil hne
      have hd := hall d List.mem_cons_self
      have hminus : d ≠ octet '-' := by
        rintro rfl
        cases hd
      have hplus : d ≠ octet '+' := by
        rintro rfl
        cases hd
      rw [List.nil_append, List.cons_append, exponentSign, if_neg hminus, if_neg hplus]
  | plus => rfl
  | minus => rfl

theorem exists_sign (s : Bytes) :
    ∃ sign, s = sign ++ (exponentSign s).2 ∧ WrittenSign (exponentSign s).1 sign := by
  cases s with
  | nil => exact ⟨[], rfl, .none⟩
  | cons b t =>
      rw [exponentSign]
      by_cases hminus : b = octet '-'
      · rw [if_pos hminus, hminus]
        exact ⟨[octet '-'], rfl, .minus⟩
      · rw [if_neg hminus]
        by_cases hplus : b = octet '+'
        · rw [if_pos hplus, hplus]
          exact ⟨[octet '+'], rfl, .plus⟩
        · rw [if_neg hplus]
          exact ⟨[], rfl, .none⟩

theorem exponent_eq_ok_iff :
    exponent s = .ok (exponent?, rest) ↔
      ∃ e, s = e ++ rest ∧ WrittenExponent exponent? e ∧ ClosesExponent exponent? rest := by
  constructor
  · intro h
    rw [exponent.eq_def] at h
    split at h
    · rename_i b t
      split at h
      · rename_i hmark
        obtain ⟨⟨ds, rest'⟩, hds, hgiven⟩ := map_eq_ok_iff.mp h
        obtain ⟨rfl, rfl⟩ := Prod.mk.inj hgiven
        have hds : someDigits (exponentSign t).2 = .ok (ds, rest') := hds
        obtain ⟨hbehind, hdigits, hstops⟩ := someDigits_eq_ok_iff.mp hds
        obtain ⟨sign, ht, hsign⟩ := exists_sign t
        refine ⟨b :: (sign ++ ds), ?_, .some (isExponentMark_iff.mp hmark) hsign hdigits, hstops⟩
        rw [ht, hbehind, List.cons_append, List.append_assoc]
      · rename_i hmark
        obtain ⟨rfl, rfl⟩ := Prod.mk.inj (Except.ok.inj h)
        exact ⟨[], rfl, .none, stops_cons (Bool.eq_false_iff.mpr hmark)⟩
    · obtain ⟨rfl, rfl⟩ := Prod.mk.inj (Except.ok.inj h)
      exact ⟨[], rfl, .none, Text.stops_nil⟩
  · intro hgiven
    obtain ⟨e, rfl, he, hcloses⟩ := hgiven
    cases he with
    | none =>
        cases rest with
        | nil => rfl
        | cons b t =>
            have hmark : isExponentMark b = false := hcloses b rfl
            rw [List.nil_append, exponent, if_neg (Bool.eq_false_iff.mp hmark)]
    | @some b negative sign ds hmark hsign hdigits =>
        rw [List.cons_append, List.append_assoc, exponent, if_pos (isExponentMark_iff.mpr hmark),
          exponentSign_of_digits hsign hdigits]
        simp only [someDigits_eq_ok_iff.mpr ⟨rfl, hdigits, hcloses⟩]
        rfl

/-! ### The whole number -/

/-- The parts of the number in front, whatever they say. -/
def numeral (s : Bytes) : Except Problem (Numeral × Bytes) := do
  let negative := s.head? == some (octet '-')
  let (whole, s) ← whole (if negative then s.tail else s)
  let (fraction?, s) ← fraction s
  let (exponent?, s) ← exponent s
  return (⟨negative, whole, fraction?, exponent?⟩, s)

/-- What a number says, if it is not too large for a number. -/
def Numeral.reading (n : Numeral) : Except Problem Number :=
  Number.ofParts n.negative n.whole n.fraction? n.exponent?

/-- A sign is told from the whole digits behind it. -/
theorem minus_append (negative : Bool) (hw : IsWhole w) (s : Bytes) :
    ((minus negative ++ (w ++ s)).head? == some (octet '-')) = negative ∧
      (if negative then (minus negative ++ (w ++ s)).tail else minus negative ++ (w ++ s)) =
        w ++ s := by
  obtain ⟨hne, hall⟩ := hw.isDigits
  obtain ⟨d, t, rfl⟩ := List.exists_cons_of_ne_nil hne
  cases negative with
  | true => exact ⟨rfl, rfl⟩
  | false =>
      have hd : d ≠ octet '-' := by
        rintro rfl
        cases hall _ List.mem_cons_self
      exact ⟨beq_false_of_ne fun h => hd (Option.some.inj h), rfl⟩

theorem exists_minus (s : Bytes) :
    ∃ negative t, (s.head? == some (octet '-')) = negative ∧
      (if negative then s.tail else s) = t ∧ s = minus negative ++ t := by
  refine ⟨_, _, rfl, rfl, ?_⟩
  cases s with
  | nil => rfl
  | cons b t =>
      by_cases hb : b = octet '-'
      · rw [hb]
        rfl
      · have hhead : ((b :: t).head? == some (octet '-')) = false :=
          beq_false_of_ne fun h => hb (Option.some.inj h)
        rw [hhead]
        rfl

/-- What follows the parts of a number one by one is what may follow the number. -/
theorem closes_iff {negative : Bool} (hf : WrittenFraction fraction? f)
    (he : WrittenExponent exponent? e) :
    Stops isDigit (f ++ (e ++ rest)) ∧ ClosesFraction fraction? (e ++ rest) ∧
        ClosesExponent exponent? rest ↔
      Closes ⟨negative, w, fraction?, exponent?⟩ rest := by
  have hmark {b : UInt8} (h : b = octet 'e' ∨ b = octet 'E') :
      isDigit b = false ∧ (b == octet '.') = false := by
    rcases h with rfl | rfl <;> decide
  cases hf with
  | none =>
      cases he with
      | none =>
          constructor
          · rintro ⟨hdigit, hpoint, hexponent⟩
            exact ⟨hdigit, fun _ _ => hpoint, fun _ => hexponent⟩
          · intro h
            exact ⟨h.digit, h.point rfl rfl, h.mark rfl⟩
      | some mark sign digits =>
          obtain ⟨hdigit, hpoint⟩ := hmark mark
          constructor
          · rintro ⟨-, -, hexponent⟩
            exact ⟨hexponent, nofun, nofun⟩
          · intro h
            exact ⟨stops_cons hdigit, stops_cons hpoint, h.digit⟩
  | some digits =>
      cases he with
      | none =>
          constructor
          · rintro ⟨-, hdigit, hexponent⟩
            exact ⟨hdigit, nofun, fun _ => hexponent⟩
          · intro h
            exact ⟨stops_cons (by decide), h.digit, h.mark rfl⟩
      | some mark sign digits =>
          obtain ⟨hdigit, -⟩ := hmark mark
          constructor
          · rintro ⟨-, -, hexponent⟩
            exact ⟨hexponent, nofun, nofun⟩
          · intro h
            exact ⟨stops_cons (by decide), stops_cons hdigit, h.digit⟩

theorem numeral_eq_ok_iff :
    numeral s = .ok (n, rest) ↔ ∃ token, s = token ++ rest ∧ WrittenNumber n token ∧
      Closes n rest := by
  constructor
  · intro h
    obtain ⟨negative, t, hnegative, ht, hs⟩ := exists_minus s
    simp only [numeral, hnegative, ht] at h
    obtain ⟨⟨w, t₁⟩, hw, h⟩ := bind_eq_ok_iff.mp h
    obtain ⟨⟨fraction?, t₂⟩, hf, h⟩ := bind_eq_ok_iff.mp h
    obtain ⟨⟨exponent?, t₃⟩, he, h⟩ := bind_eq_ok_iff.mp h
    obtain ⟨rfl, rfl⟩ := Prod.mk.inj (Except.ok.inj h)
    obtain ⟨rfl, hwhole, hdigit⟩ := whole_eq_ok_iff.mp hw
    obtain ⟨f, rfl, hfraction, hpoint⟩ := fraction_eq_ok_iff.mp hf
    obtain ⟨e, rfl, hexponent, hmark⟩ := exponent_eq_ok_iff.mp he
    refine ⟨minus negative ++ (w ++ (f ++ e)), ?_, .mk hwhole hfraction hexponent,
      (closes_iff hfraction hexponent).mp ⟨hdigit, hpoint, hmark⟩⟩
    simp only [hs, List.append_assoc]
  · intro hgiven
    obtain ⟨token, rfl, hwritten, hcloses⟩ := hgiven
    cases hwritten with
    | @mk negative w f e fraction? exponent? hwhole hfraction hexponent =>
        obtain ⟨hdigit, hpoint, hmark⟩ := (closes_iff hfraction hexponent).mpr hcloses
        obtain ⟨hnegative, ht⟩ := minus_append negative hwhole (f ++ (e ++ rest))
        simp only [numeral, List.append_assoc, hnegative, ht,
          whole_eq_ok_iff.mpr ⟨rfl, hwhole, hdigit⟩,
          fraction_eq_ok_iff.mpr ⟨f, rfl, hfraction, hpoint⟩,
          exponent_eq_ok_iff.mpr ⟨e, rfl, hexponent, hmark⟩, bind, Except.bind]
        rfl

theorem number_eq (s : Bytes) :
    number s = do
      let (n, s) ← numeral s
      let v ← n.reading
      return (v, s) := by
  simp only [number, numeral, bind_assoc, pure_bind]
  rfl

/-- **What is read as a number.**  It is one of the grammar, taken as far as it goes, that is not
too large. -/
theorem number_eq_ok_iff {v : Number} :
    number s = .ok (v, rest) ↔ ∃ n token, s = token ++ rest ∧ WrittenNumber n token ∧
      Closes n rest ∧ n.reading = .ok v := by
  rw [number_eq]
  constructor
  · intro h
    obtain ⟨⟨n, rest'⟩, hn, h⟩ := bind_eq_ok_iff.mp h
    obtain ⟨v', hv, h⟩ := bind_eq_ok_iff.mp h
    obtain ⟨rfl, rfl⟩ := Prod.mk.inj (Except.ok.inj h)
    obtain ⟨token, hs, hwritten, hcloses⟩ := numeral_eq_ok_iff.mp hn
    exact ⟨n, token, hs, hwritten, hcloses, hv⟩
  · intro hgiven
    obtain ⟨n, token, hs, hwritten, hcloses, hv⟩ := hgiven
    exact bind_eq_ok_iff.mpr ⟨_, numeral_eq_ok_iff.mpr ⟨token, hs, hwritten, hcloses⟩,
      bind_eq_ok_iff.mpr ⟨v, hv, rfl⟩⟩

/-! ### A natural number -/

theorem le_foldl_decimal (ds : Bytes) (n : Nat) :
    n ≤ ds.foldl (fun n d => 10 * n + (d.toNat - 0x30)) n := by
  induction ds generalizing n with
  | nil => exact Nat.le_refl n
  | cons d ds ih =>
      rw [List.foldl_cons]
      exact Nat.le_trans (by omega) (ih _)

/-- No digit is left over where the value of all of them is within a word. -/
theorem significand_eq_iff {n m : Nat} (hn : n ≤ maxWord) :
    significand n ds = (m, 0) ↔
      ds.foldl (fun n d => 10 * n + (d.toNat - 0x30)) n = m ∧ m ≤ maxWord := by
  induction ds generalizing n with
  | nil =>
      rw [significand, List.foldl_nil, Prod.mk.injEq]
      constructor
      · rintro ⟨rfl, -⟩
        exact ⟨rfl, hn⟩
      · rintro ⟨rfl, -⟩
        exact ⟨rfl, rfl⟩
  | cons d ds ih =>
      rw [significand, List.foldl_cons]
      by_cases hm : 10 * n + (d.toNat - 0x30) ≤ maxWord
      · rw [if_pos hm]
        exact ih hm
      · rw [if_neg hm]
        constructor
        · intro h
          cases h
        · rintro ⟨rfl, hle⟩
          exact absurd (Nat.le_trans (le_foldl_decimal ds _) hle) hm

theorem roundTo53_le {n : Nat} (hn : n ≠ 0) : roundTo53 n ≤ 2 * n := by
  have hunit : Nat.pow 2 (n.log2 + 1 - 53) ≤ n :=
    calc Nat.pow 2 (n.log2 + 1 - 53)
        ≤ 2 ^ n.log2 := Nat.pow_le_pow_right (by decide) (by omega)
      _ ≤ n := Nat.log2_self_le hn
  have hlow : n / Nat.pow 2 (n.log2 + 1 - 53) * Nat.pow 2 (n.log2 + 1 - 53) ≤ n :=
    Nat.div_mul_le_self n _
  rw [roundTo53]
  split
  · rw [Nat.add_mul]
    omega
  · omega

/-- A word is far from what no binary64 value reaches. -/
theorem tokenOverflows_of_word {n : Nat} (h : significand 0 ds = (n, 0)) (hn : n ≤ maxWord) :
    tokenOverflows ds [] false 0 = false := by
  have hsmall : n ≠ 0 → roundTo53 n * roundTo53 (Nat.pow 10 0) < overflowBound := by
    intro hne
    have hone : roundTo53 (Nat.pow 10 0) = 1 := by decide
    rw [hone, Nat.mul_one]
    calc roundTo53 n ≤ 2 * n := roundTo53_le hne
      _ ≤ 2 * maxWord := Nat.mul_le_mul_left 2 hn
      _ < overflowBound := by decide +kernel
  have hscale : tokenOverflows ds [] false 0 = overflows n 0 := by
    simp only [tokenOverflows, h, significand, if_neg (Nat.not_lt_zero maxExponent)]
    rfl
  rw [hscale, overflows]
  by_cases hne : n = 0
  · rw [hne]
    rfl
  · have hbound := Nat.not_le.mpr (hsmall hne)
    have hpower : ¬(maxPower : Int) < 0 := by decide
    simp only [Int.toNat_zero, ge_iff_le, decide_eq_false hbound, decide_eq_false hpower,
      Bool.or_false, Bool.and_false]

theorem reading_eq_natural_iff {m : Nat} :
    n.reading = .ok (.natural m) ↔
      n.negative = false ∧ n.fraction? = none ∧ n.exponent? = none ∧ decimal n.whole = m ∧
        m ≤ maxWord := by
  obtain ⟨negative, whole, fraction?, exponent?⟩ := n
  have hword : significand 0 whole = (m, 0) ↔ decimal whole = m ∧ m ≤ maxWord :=
    significand_eq_iff (Nat.zero_le maxWord)
  simp only [Numeral.reading, Number.ofParts]
  constructor
  · intro h
    split at h
    · cases h
    · split at h
      · cases h
      · rename_i hplain
        simp only [Bool.or_eq_true, Option.isSome_iff_ne_none, not_or, Bool.not_eq_true,
          ne_eq, not_not] at hplain
        obtain ⟨⟨rfl, rfl⟩, rfl⟩ := hplain
        split at h
        · rename_i m' hsignificand
          cases h
          exact ⟨rfl, rfl, rfl, hword.mp hsignificand⟩
        · cases h
  · rintro ⟨rfl, rfl, rfl, hdecimal⟩
    have hsignificand := hword.mpr hdecimal
    have hfits := tokenOverflows_of_word hsignificand hdecimal.2
    simp only [Option.getD_none, cappedValue, hfits, hsignificand]
    rfl

/-! ### Passing over a number -/

theorem skipDigits_eq_ok_iff : skipDigits s = .ok rest ↔ ∃ ds, someDigits s = .ok (ds, rest) := by
  rw [skipDigits, someDigits]
  split <;> simp

theorem skipWhole_eq_ok_iff : skipWhole s = .ok rest ↔ ∃ w, whole s = .ok (w, rest) := by
  cases s with
  | nil => simp [skipWhole, whole]
  | cons d t =>
      have hafter (hd : isDigit d = true) : afterDigits (d :: t) = afterDigits t := by
        rw [afterDigits, List.dropWhile_cons, if_pos hd]
        rfl
      rw [skipWhole, whole]
      by_cases hd : isDigit d = true
      · by_cases hzero : d = octet '0'
        · by_cases hnone : (digits t).isEmpty = true <;> simp [hzero, hnone, isDigit_zero]
        · simp [hd, hzero, hafter hd]
      · simp [hd]

theorem skipFraction_eq_ok_iff :
    skipFraction s = .ok rest ↔ ∃ fraction?, fraction s = .ok (fraction?, rest) := by
  cases s with
  | nil => simp [skipFraction, fraction]
  | cons b t =>
      rw [skipFraction, fraction]
      split
      · simp only [skipDigits_eq_ok_iff, map_eq_ok_iff, Prod.exists, Prod.mk.injEq]
        rw [exists_comm]
        simp
      · simp

theorem skipExponent_eq_ok_iff :
    skipExponent s = .ok rest ↔ ∃ exponent?, exponent s = .ok (exponent?, rest) := by
  cases s with
  | nil => simp [skipExponent, exponent]
  | cons b t =>
      rw [skipExponent, exponent]
      split
      · simp only [skipDigits_eq_ok_iff, map_eq_ok_iff, Prod.exists, Prod.mk.injEq]
        rw [exists_comm]
        simp
      · simp

/-- What is passed over as a number is one of the grammar, taken as far as it goes. -/
theorem skipNumber_eq_ok_iff :
    skipNumber s = .ok rest ↔ ∃ n token, s = token ++ rest ∧ WrittenNumber n token ∧
      Closes n rest := by
  have hparts : skipNumber s = .ok rest ↔ ∃ n, numeral s = .ok (n, rest) := by
    simp only [skipNumber, numeral, bind_eq_ok_iff, skipWhole_eq_ok_iff, skipFraction_eq_ok_iff,
      skipExponent_eq_ok_iff]
    constructor
    · rintro ⟨s₁, ⟨w, hw⟩, s₂, ⟨fraction?, hf⟩, exponent?, he⟩
      exact ⟨_, _, hw, _, hf, _, he, rfl⟩
    · rintro ⟨n, ⟨w, s₁⟩, hw, ⟨fraction?, s₂⟩, hf, ⟨exponent?, s₃⟩, he, h⟩
      obtain ⟨-, rfl⟩ := Prod.mk.inj (Except.ok.inj h)
      exact ⟨s₁, ⟨w, hw⟩, s₂, ⟨fraction?, hf⟩, exponent?, he⟩
  simp only [hparts, numeral_eq_ok_iff]

end FrontDoor.Json
