/-
Which tokens are read as a size.

A token is any run of the octets that numbers consist of, whether it is a number or not.  A size is
a token of digits that says a number of at most 64 bits (`IsSize`), and among numbers these are the
ones that have no sign, fraction or exponent and are not too large (`isSize_written_iff`).

The reader may stop within a token, as in `1-2`.  Where it goes on behind the value of a field,
though, a comma or the end of a list or an object has to come, and no token begins with these; so if
it does go on, the whole token was read, and it was a size (`isSize_of_readField`).
-/
import FrontDoor.Proofs.Grant.Fields

namespace FrontDoor.Grant

open Json
open Text (Stops run_eq_iff)

variable {g g' : Grant} {token behind rest : Bytes}

/-! ### Tokens -/

/-- The octets of numbers: digits, signs, the point and the mark of an exponent. -/
def isNumberOctet (b : UInt8) : Bool :=
  continues b || b == octet '-' || b == octet '+'

/-- The token is the numeral of a number of at most 64 bits. -/
structure IsSize (token : Bytes) : Prop where
  digits : ∀ b ∈ token, isDigit b = true
  leading : token.head? = some (octet '0') → token = [octet '0']
  fits : decimal token ≤ 2 ^ 64 - 1

theorem isNumberOctet_of_isDigit {b : UInt8} (h : isDigit b = true) : isNumberOctet b = true := by
  simp [isNumberOctet, continues, h]

/-- Octets of numbers stand neither for whitespace nor for the beginning of `null`. -/
theorem of_isNumberOctet {b : UInt8} (h : isNumberOctet b = true) :
    isSpace b = false ∧ b ≠ octet 'n' ∧ b ≠ octet ',' ∧ b ≠ octet ']' := by
  have hall := octet_forall (P := fun b => isNumberOctet b = true →
    isSpace b = false ∧ b ≠ octet 'n' ∧ b ≠ octet ',' ∧ b ≠ octet ']') (by decide +kernel) b
  exact hall h

theorem isSize_iff (hne : token ≠ []) :
    IsSize token ↔ IsWhole token ∧ decimal token < 2 ^ 64 := by
  have hfits : decimal token ≤ 2 ^ 64 - 1 ↔ decimal token < 2 ^ 64 := by omega
  constructor
  · intro h
    refine ⟨?_, hfits.mp h.fits⟩
    by_cases hzero : token.head? = some (octet '0')
    · exact .inl (h.leading hzero)
    · exact .inr ⟨⟨hne, h.digits⟩, hzero⟩
  · intro hgiven
    obtain ⟨hwhole, hdecimal⟩ := hgiven
    refine ⟨hwhole.isDigits.2, ?_, hfits.mpr hdecimal⟩
    rintro hzero
    exact hwhole.resolve_right fun h => h.2 hzero

/-- What a size field says of a token. -/
theorem says_size_iff {d? : Option Datum} (hne : token ≠ [])
    (htoken : ∀ b ∈ token, isNumberOctet b = true) :
    Says .size token d? ↔ IsSize token ∧ d? = some (.size (decimal token)) := by
  rw [isSize_iff hne]
  constructor
  · intro h
    cases h with
    | null => exact absurd rfl (of_isNumberOctet (htoken (octet 'n') (by simp [Json.null]))).2.1
    | size whole fits => exact ⟨⟨whole, fits⟩, rfl⟩
  · intro hgiven
    obtain ⟨⟨whole, fits⟩, rfl⟩ := hgiven
    exact .size whole fits

/-! ### Numbers -/

/-- A number consists of octets of numbers. -/
theorem isNumberOctet_of_written {n : Numeral} (h : WrittenNumber n token) :
    token ≠ [] ∧ ∀ b ∈ token, isNumberOctet b = true := by
  have hdigits {ds : Bytes} (hds : IsDigits ds) : ∀ b ∈ ds, isNumberOctet b = true :=
    fun b hb => isNumberOctet_of_isDigit (hds.2 b hb)
  cases h with
  | @mk negative whole f e fraction? exponent? digits fraction exponent =>
      have hminus : ∀ b ∈ minus negative, isNumberOctet b = true := by
        cases negative with
        | false => simp [minus]
        | true => simp only [minus, if_true, List.forall_mem_singleton]; decide
      have hfraction : ∀ b ∈ f, isNumberOctet b = true := by
        cases fraction with
        | none => simp
        | some digits => exact List.forall_mem_cons.mpr ⟨by decide, hdigits digits⟩
      have hexponent : ∀ b ∈ e, isNumberOctet b = true := by
        cases exponent with
        | none => simp
        | @some b negative s ds mark sign digits =>
            have hmark : isNumberOctet b = true := by rcases mark with rfl | rfl <;> decide
            have hsign : ∀ b ∈ s, isNumberOctet b = true := by
              cases sign with
              | none => simp
              | plus => simp only [List.forall_mem_singleton]; decide
              | minus => simp only [List.forall_mem_singleton]; decide
            exact List.forall_mem_cons.mpr
              ⟨hmark, List.forall_mem_append.mpr ⟨hsign, hdigits digits⟩⟩
      refine ⟨?_, List.forall_mem_append.mpr ⟨hminus, List.forall_mem_append.mpr
        ⟨hdigits digits.isDigits, List.forall_mem_append.mpr ⟨hfraction, hexponent⟩⟩⟩⟩
      intro hempty
      exact digits.isDigits.1 (List.append_eq_nil_iff.mp (List.append_eq_nil_iff.mp hempty).2).1

/-- Of a number that is a size only the digits before the point are written. -/
theorem isSize_written_iff {n : Numeral} (h : WrittenNumber n token) :
    IsSize token ↔ n.negative = false ∧ n.fraction? = none ∧ n.exponent? = none ∧
      decimal n.whole ≤ 2 ^ 64 - 1 := by
  cases h with
  | @mk negative whole f e fraction? exponent? digits fraction exponent =>
      constructor
      · intro hsize
        have hdigit (b : UInt8) (hb : b ∈ minus negative ++ (whole ++ (f ++ e)))
            (hno : isDigit b = false) : False := by
          rw [hsize.digits b hb] at hno
          cases hno
        cases negative with
        | true => exact (hdigit (octet '-') (by simp [minus]) (by decide)).elim
        | false =>
            cases fraction with
            | some => exact (hdigit (octet '.') (by simp) (by decide)).elim
            | none =>
                cases exponent with
                | @some b _ _ _ mark =>
                    refine (hdigit b (by simp) ?_).elim
                    rcases mark with rfl | rfl <;> decide
                | none =>
                    have hfits := hsize.fits
                    simp only [minus, Bool.false_eq_true, if_false, List.nil_append,
                      List.append_nil] at hfits
                    exact ⟨rfl, rfl, rfl, hfits⟩
      · intro hgiven
        obtain ⟨rfl, rfl, rfl, hfits⟩ := hgiven
        cases fraction
        cases exponent
        simp only [minus, Bool.false_eq_true, if_false, List.nil_append, List.append_nil]
        exact (isSize_iff digits.isDigits.1).mpr ⟨digits, Nat.lt_of_le_pred (by decide) hfits⟩

/-! ### Where a token ends -/

/-- What follows begins with a comma or closes a list or an object, but for whitespace. -/
def GoesOn (rest : Bytes) : Prop :=
  ∃ b t, skipSpace rest = b :: t ∧ (b = octet ',' ∨ b = octet ']' ∨ b = octet '\x7d')

/-- A token ends there. -/
theorem GoesOn.stops (h : GoesOn rest) : Stops isNumberOctet rest := by
  intro b hb
  obtain ⟨c, t, hrest, hc⟩ := h
  cases rest with
  | nil => cases hb
  | cons b' rest =>
      obtain rfl := Option.some.inj hb
      rw [Bool.eq_false_iff]
      intro hnumber
      have hspace := (of_isNumberOctet hnumber).1
      rw [skipSpace_cons hspace] at hrest
      obtain ⟨rfl, -⟩ := List.cons.inj hrest
      rcases hc with rfl | rfl | rfl <;> revert hnumber <;> decide

theorem goesOn_gap (gap : Gap) (h : GoesOn rest) : GoesOn (gap ++ rest) := by
  rwa [GoesOn, skipSpace_gap]

theorem goesOn_cons {b : UInt8} (hb : b = octet ',' ∨ b = octet ']' ∨ b = octet '\x7d') :
    GoesOn (b :: rest) := by
  refine ⟨b, rest, skipSpace_cons ?_ rest, hb⟩
  rcases hb with rfl | rfl | rfl <;> decide

/-- A token in front of what ends it is read as a size just if it is one. -/
theorem isSize_of_readField (gap : Gap) (hne : token ≠ [])
    (htoken : ∀ b ∈ token, isNumberOctet b = true) (hbehind : GoesOn behind)
    (h : g.readField .size (gap ++ (token ++ behind)) = .ok (g', rest)) (hrest : GoesOn rest) :
    IsSize token := by
  obtain ⟨gap', v, hs, hsaid, -, -⟩ := readField_eq_ok_iff.mp h
  have hfront : skipSpace (token ++ behind) = token ++ behind := by
    obtain ⟨b, t, rfl⟩ := List.exists_cons_of_ne_nil hne
    exact skipSpace_cons (of_isNumberOctet (htoken b List.mem_cons_self)).1 _
  have hsame := congrArg skipSpace hs
  rw [skipSpace_gap, skipSpace_gap, hfront, skipSpace_written hsaid.written] at hsame
  generalize g'.datum? .size = d? at hsaid
  cases hsaid with
  | null =>
      obtain ⟨b, t, rfl⟩ := List.exists_cons_of_ne_nil hne
      obtain ⟨rfl, -⟩ := List.cons.inj hsame
      exact absurd rfl (of_isNumberOctet (htoken (octet 'n') List.mem_cons_self)).2.1
  | size whole fits =>
      have hdigits : ∀ b ∈ v, isNumberOctet b = true :=
        fun b hb => isNumberOctet_of_isDigit (whole.isDigits.2 b hb)
      have htake := (run_eq_iff.mpr ⟨hsame, hdigits, hrest.stops⟩).1
      rw [Text.takeWhile_append_of_all htoken hbehind.stops] at htake
      obtain rfl := htake
      exact (isSize_iff hne).mpr ⟨whole, fits⟩

end FrontDoor.Grant
