/-
What stands in a document for the value of a field.

A field holds a datum or nothing, and a grant is nothing but what its fields hold (`ext_datum`).
`Says` lists what may stand for the value of a field and what the field holds then.  The reader of
a field reads just that and leaves the other fields as they are (`readField_eq_ok_iff`).

Only a size can be followed by octets that would go on with it, since all other values are closed
by an octet of their own or are words.
-/
import FrontDoor.Grant.Document
import FrontDoor.Proofs.Json.Skip

namespace FrontDoor.Grant

open Json
open Text (map_eq_ok_iff)

variable {g g' : Grant} {f : Field} {s v rest : Bytes} {d? d'? : Option Datum}

/-! ### What fields hold -/

/-- What a field may hold. -/
inductive Datum
  | text (value : String)
  | size (n : Nat)
  deriving DecidableEq

/-- What the field holds. -/
def datum? (g : Grant) : Field → Option Datum
  | .text f => (g.text? f).map .text
  | .size => g.lfsSize.map .size

/-- The other fields hold the same in both grants. -/
def SameBut (f : Field) (g g' : Grant) : Prop :=
  ∀ f' ≠ f, g'.datum? f' = g.datum? f'

theorem map_text_inj {a b : Option String} (h : a.map Datum.text = b.map Datum.text) : a = b :=
  Option.map_injective (fun _ _ => Datum.text.inj) h

theorem map_size_inj {a b : Option Nat} (h : a.map Datum.size = b.map Datum.size) : a = b :=
  Option.map_injective (fun _ _ => Datum.size.inj) h

/-- Two grants whose fields hold the same are the same. -/
theorem ext_datum (h : ∀ f, g.datum? f = g'.datum? f) : g = g' := by
  have htext (f : TextField) : g.text? f = g'.text? f := map_text_inj (h (.text f))
  have hsize : g.lfsSize = g'.lfsSize := map_size_inj (h .size)
  have h₁ := htext .glId
  have h₂ := htext .repoPath
  have h₃ := htext .archivePath
  have h₄ := htext .archivePrefix
  have h₅ := htext .commitId
  have h₆ := htext .storeLfsPath
  have h₇ := htext .lfsOid
  have h₈ := htext .tempPath
  obtain ⟨⟩ := g
  obtain ⟨⟩ := g'
  simp only [text?] at h₁ h₂ h₃ h₄ h₅ h₆ h₇ h₈ hsize
  simp only [h₁, h₂, h₃, h₄, h₅, h₆, h₇, h₈, hsize]

theorem datum?_empty (f : Field) : ({} : Grant).datum? f = none := by
  cases f with
  | text f => cases f <;> rfl
  | size => rfl

theorem eq_withText_iff {f : TextField} {value? : Option String} :
    g' = g.withText value? f ↔
      g'.datum? (.text f) = value?.map .text ∧ SameBut (.text f) g g' := by
  have hdatum (f' : Field) : (g.withText value? f).datum? f' =
      if f' = .text f then value?.map .text else g.datum? f' := by
    cases f' with
    | text f' =>
        by_cases hf : f' = f <;>
          simp only [datum?, text?_withText, Field.text.injEq, hf, if_true, if_false]
    | size => simp only [datum?, lfsSize_withText, reduceCtorEq, if_false]
  constructor
  · rintro rfl
    refine ⟨by rw [hdatum, if_pos rfl], ?_⟩
    intro f' hf'
    rw [hdatum, if_neg hf']
  · rintro ⟨hset, hsame⟩
    refine ext_datum fun f' => ?_
    rw [hdatum]
    by_cases hf' : f' = .text f
    · rw [if_pos hf', hf', hset]
    · rw [if_neg hf', hsame f' hf']

theorem eq_withSize_iff {n? : Option Nat} :
    g' = { g with lfsSize := n? } ↔ g'.datum? .size = n?.map .size ∧ SameBut .size g g' := by
  have hother (f' : Field) (hf' : f' ≠ .size) :
      ({ g with lfsSize := n? } : Grant).datum? f' = g.datum? f' := by
    cases f' with
    | text f' => cases f' <;> rfl
    | size => exact absurd rfl hf'
  constructor
  · rintro rfl
    exact ⟨rfl, hother⟩
  · rintro ⟨hset, hsame⟩
    refine ext_datum fun f' => ?_
    by_cases hf' : f' = .size
    · rw [hf', hset]
      rfl
    · rw [hsame f' hf', hother f' hf']

/-! ### What a value says -/

/-- What the octets of a value say in a field. -/
inductive Says : Field → Bytes → Option Datum → Prop
  | null {f : Field} : Says f Json.null none
  | empty {f : TextField} : Says (.text f) (quoted []) none
  | text {f : TextField} {value : String} {body : Bytes} (nonempty : value ≠ "")
      (written : WrittenText value.toList body) : Says (.text f) (quoted body) (some (.text value))
  | size {digits : Bytes} (whole : IsWhole digits) (fits : decimal digits < 2 ^ 64) :
      Says .size digits (some (.size (decimal digits)))

theorem writtenNumber_of_isWhole (h : IsWhole s) : WrittenNumber ⟨false, s, none, none⟩ s := by
  have hwritten : WrittenNumber ⟨false, s, none, none⟩ (minus false ++ (s ++ ([] ++ []))) :=
    .mk h .none .none
  rwa [List.append_nil, List.append_nil] at hwritten

theorem Says.written (h : Says f v d?) : Written .value v := by
  cases h with
  | null => exact .null
  | empty => exact .string .nil
  | text nonempty written => exact .string (isText_of_writtenText written)
  | size whole fits => exact .number (writtenNumber_of_isWhole whole)

/-- Nothing goes on with a value that says a text. -/
theorem Says.endsBehind {f : TextField} (h : Says (.text f) v d?) : EndsBehind v rest := by
  rintro ⟨n, hn⟩
  obtain ⟨b, t, hv, hb⟩ := exists_front_of_number hn
  have hfront : b ≠ octet '-' ∧ isDigit b = false := by
    cases h with
    | null =>
        obtain ⟨rfl, -⟩ := List.cons.inj hv
        decide
    | empty =>
        obtain ⟨rfl, -⟩ := List.cons.inj hv
        decide
    | text nonempty written =>
        obtain ⟨rfl, -⟩ := List.cons.inj hv
        decide
  rcases hb with hb | hb
  · exact absurd hb hfront.1
  · rw [hfront.2] at hb
    cases hb

/-! ### The readers of fields -/

theorem exists_gap (s : Bytes) : ∃ gap : Gap, s = gap ++ skipSpace s :=
  ⟨⟨s.takeWhile isSpace, fun _ hb => List.mem_takeWhile_imp hb⟩,
    List.takeWhile_append_dropWhile.symm⟩

theorem text_append {value : String} {body : Bytes} (h : WrittenText value.toList body) :
    Json.text (body ++ octet '"' :: rest) = .ok (value, rest) :=
  text_eq_ok_iff.mpr ⟨body, rfl, h⟩

theorem fieldText_null (gap : Gap) : fieldText (gap ++ (Json.null ++ rest)) = .ok (none, rest) := by
  have hword : word [octet 'u', octet 'l', octet 'l']
      ([octet 'u', octet 'l', octet 'l'] ++ rest) = .ok rest := word_eq_ok_iff.mpr rfl
  rw [fieldText, skipSpace_gap, Json.null, List.cons_append, skipSpace_cons (by decide)]
  simp only [if_pos, hword]
  rfl

theorem fieldText_quoted {value : String} {body : Bytes} (gap : Gap)
    (h : WrittenText value.toList body) :
    fieldText (gap ++ (quoted body ++ rest)) =
      .ok (if value.isEmpty then none else some value, rest) := by
  rw [fieldText, skipSpace_gap, quoted, List.cons_append, List.append_assoc,
    skipSpace_cons (by decide)]
  simp only [List.singleton_append, text_append h]
  rfl

theorem fieldText_eq_ok_iff {f : TextField} {value? : Option String} :
    fieldText s = .ok (value?, rest) ↔
      ∃ (gap : Gap) (v : Bytes), s = gap ++ (v ++ rest) ∧
        Says (.text f) v (value?.map .text) := by
  constructor
  · intro h
    obtain ⟨gap, hgap⟩ := exists_gap s
    rw [fieldText.eq_def] at h
    split at h
    · cases h
    · rename_i b t hs
      rw [hs] at hgap
      split at h
      · rename_i hb
        obtain ⟨rest', hword, hgiven⟩ := map_eq_ok_iff.mp h
        obtain ⟨rfl, rfl⟩ := Prod.mk.inj hgiven
        rw [word_eq_ok_iff] at hword
        refine ⟨gap, Json.null, ?_, .null⟩
        rw [hgap, hb, hword]
        rfl
      · split at h
        · rename_i hb
          obtain ⟨⟨value, rest'⟩, htext, hgiven⟩ := map_eq_ok_iff.mp h
          obtain ⟨rfl, rfl⟩ := Prod.mk.inj hgiven
          obtain ⟨body, rfl, hbody⟩ := text_eq_ok_iff.mp htext
          refine ⟨gap, quoted body, ?_, ?_⟩
          · rw [hgap, hb, quoted, List.cons_append, List.append_assoc]
            rfl
          · by_cases hvalue : value = ""
            · rw [hvalue] at hbody ⊢
              cases hbody
              exact .empty
            · rw [if_neg (by rwa [String.isEmpty_iff])]
              exact .text hvalue hbody
        · cases h
  · rintro ⟨gap, v, rfl, hsaid⟩
    generalize hd : value?.map Datum.text = d? at hsaid
    cases hsaid with
    | null =>
        rw [fieldText_null, Option.map_eq_none_iff.mp hd]
    | empty =>
        rw [Option.map_eq_none_iff.mp hd]
        have hwritten : WrittenText "".toList [] := .nil
        exact fieldText_quoted gap hwritten
    | @text _ value body nonempty written =>
        rw [fieldText_quoted gap written, if_neg (by rwa [String.isEmpty_iff]),
          map_text_inj (b := some value) hd]

/-! ### Sizes -/

theorem fits_iff {n : Nat} : n ≤ maxWord ↔ n < 2 ^ 64 := by
  have hword : maxWord + 1 = 2 ^ 64 := by decide +kernel
  rw [← hword]
  exact Nat.lt_succ_iff.symm

theorem number_of_digits {digits : Bytes} (whole : IsWhole digits)
    (fits : decimal digits < 2 ^ 64) (hrest : Ends rest) :
    number (digits ++ rest) = .ok (.natural (decimal digits), rest) :=
  number_eq_ok_iff.mpr ⟨_, digits, rfl, writtenNumber_of_isWhole whole, closes_of_ends hrest,
    reading_eq_natural_iff.mpr ⟨rfl, rfl, rfl, rfl, fits_iff.mpr fits⟩⟩

theorem fieldSize_null (gap : Gap) : fieldSize (gap ++ (Json.null ++ rest)) = .ok (none, rest) := by
  have hword : word [octet 'u', octet 'l', octet 'l']
      ([octet 'u', octet 'l', octet 'l'] ++ rest) = .ok rest := word_eq_ok_iff.mpr rfl
  rw [fieldSize, skipSpace_gap, Json.null, List.cons_append, skipSpace_cons (by decide)]
  simp only [if_pos, hword]
  rfl

theorem fieldSize_digits {digits : Bytes} (gap : Gap) (whole : IsWhole digits)
    (fits : decimal digits < 2 ^ 64) (hrest : Ends rest) :
    fieldSize (gap ++ (digits ++ rest)) = .ok (some (decimal digits), rest) := by
  have hread := number_of_digits whole fits hrest
  obtain ⟨hne, hall⟩ := whole.isDigits
  obtain ⟨d, ds, rfl⟩ := List.exists_cons_of_ne_nil hne
  have hd := hall d List.mem_cons_self
  have hfront := octet_forall (P := fun b => isDigit b = true → isSpace b = false ∧ b ≠ octet 'n')
    (by decide +kernel) d hd
  rw [fieldSize, skipSpace_gap, List.cons_append, skipSpace_cons hfront.1]
  rw [List.cons_append] at hread
  simp only [if_neg hfront.2, hd, Bool.or_true, if_pos, hread]

theorem fieldSize_eq_ok_iff {n? : Option Nat} :
    fieldSize s = .ok (n?, rest) ↔
      ∃ (gap : Gap) (v : Bytes), s = gap ++ (v ++ rest) ∧ Says .size v (n?.map .size) ∧
        EndsBehind v rest := by
  constructor
  · intro h
    obtain ⟨gap, hgap⟩ := exists_gap s
    rw [fieldSize.eq_def] at h
    split at h
    · cases h
    · rename_i b t hs
      rw [hs] at hgap
      split at h
      · rename_i hb
        obtain ⟨rest', hword, hgiven⟩ := map_eq_ok_iff.mp h
        obtain ⟨rfl, rfl⟩ := Prod.mk.inj hgiven
        rw [word_eq_ok_iff] at hword
        refine ⟨gap, Json.null, ?_, .null, (Says.null : Says (.text .glId) _ _).endsBehind⟩
        rw [hgap, hb, hword]
        rfl
      · split at h
        · split at h
          · rename_i n rest' hnumber
            cases h
            obtain ⟨⟨negative, whole, fraction?, exponent?⟩, token, hs, hwritten, hcloses,
              hreading⟩ := number_eq_ok_iff.mp hnumber
            obtain ⟨rfl, rfl, rfl, rfl, hfits⟩ := reading_eq_natural_iff.mp hreading
            cases hwritten with
            | mk digits fraction exponent =>
                cases fraction
                cases exponent
                refine ⟨gap, whole, ?_, .size digits (fits_iff.mp hfits), ?_⟩
                · rw [hgap, hs]
                  simp only [minus, List.append_nil]
                  rfl
                · exact fun _ => ends_of_closes hcloses rfl rfl
          · cases h
          · cases h
        · cases h
  · rintro ⟨gap, v, rfl, hsaid, hends⟩
    generalize hd : n?.map Datum.size = d? at hsaid
    cases hsaid with
    | null => rw [fieldSize_null, Option.map_eq_none_iff.mp hd]
    | size whole fits =>
        rw [fieldSize_digits gap whole fits (hends ⟨_, writtenNumber_of_isWhole whole⟩),
          map_size_inj (b := some _) hd]

/-- **What is read as a field** is a value that says what the field holds then, and the other
fields hold what they held. -/
theorem readField_eq_ok_iff :
    g.readField f s = .ok (g', rest) ↔
      ∃ (gap : Gap) (v : Bytes), s = gap ++ (v ++ rest) ∧ Says f v (g'.datum? f) ∧
        EndsBehind v rest ∧ SameBut f g g' := by
  cases f with
  | text f =>
      simp only [readField, map_eq_ok_iff, Prod.exists, Prod.mk.injEq]
      constructor
      · rintro ⟨value?, rest', hread, hset, rfl⟩
        obtain ⟨gap, v, hs, hsaid⟩ := (fieldText_eq_ok_iff (f := f)).mp hread
        obtain ⟨hdatum, hsame⟩ := eq_withText_iff.mp hset.symm
        exact ⟨gap, v, hs, hdatum ▸ hsaid, hsaid.endsBehind, hsame⟩
      · rintro ⟨gap, v, hs, hsaid, -, hsame⟩
        exact ⟨g'.text? f, rest, fieldText_eq_ok_iff.mpr ⟨gap, v, hs, hsaid⟩,
          (eq_withText_iff.mpr ⟨rfl, hsame⟩).symm, rfl⟩
  | size =>
      simp only [readField, map_eq_ok_iff, Prod.exists, Prod.mk.injEq]
      constructor
      · rintro ⟨n?, rest', hread, hset, rfl⟩
        obtain ⟨gap, v, hs, hsaid, hends⟩ := fieldSize_eq_ok_iff.mp hread
        obtain ⟨hdatum, hsame⟩ := eq_withSize_iff.mp hset.symm
        exact ⟨gap, v, hs, hdatum ▸ hsaid, hends, hsame⟩
      · rintro ⟨gap, v, hs, hsaid, hends, hsame⟩
        exact ⟨g'.lfsSize, rest, fieldSize_eq_ok_iff.mpr ⟨gap, v, hs, hsaid, hends⟩,
          (eq_withSize_iff.mpr ⟨rfl, hsame⟩).symm, rfl⟩

/-! ### Values that are well formed -/

/-- What is read of a value that is written is what it says. -/
theorem readField_written (gap : Gap) (hv : Written .value v) (hends : EndsBehind v rest)
    {rest' : Bytes} :
    g.readField f (gap ++ (v ++ rest)) = .ok (g', rest') ↔
      rest' = rest ∧ Says f v (g'.datum? f) ∧ SameBut f g g' := by
  rw [readField_eq_ok_iff]
  constructor
  · rintro ⟨gap', v', hs, hsaid, hends', hsame⟩
    have hbehind := congrArg skipSpace hs
    rw [skipSpace_gap, skipSpace_gap, skipSpace_written hv, skipSpace_written hsaid.written]
      at hbehind
    obtain ⟨rfl, rfl⟩ := written_append_inj hv hsaid.written hends hends' hbehind
    exact ⟨rfl, hsaid, hsame⟩
  · rintro ⟨rfl, hsaid, hsame⟩
    exact ⟨gap, v, rfl, hsaid, hends, hsame⟩

/-- A field may be given what a value says for it. -/
theorem exists_datum (g : Grant) (h : Says f v d?) : ∃ g', g'.datum? f = d? ∧ SameBut f g g' := by
  have htext {f : TextField} (value? : Option String) :
      ∃ g', g'.datum? (.text f) = value?.map .text ∧ SameBut (.text f) g g' :=
    ⟨g.withText value? f, eq_withText_iff.mp rfl⟩
  cases h with
  | @null f =>
      cases f with
      | text f => exact htext none
      | size => exact ⟨{ g with lfsSize := none }, eq_withSize_iff.mp rfl⟩
  | empty => exact htext none
  | @text f value body nonempty written => exact htext (some value)
  | size whole fits => exact ⟨{ g with lfsSize := some (decimal v) }, eq_withSize_iff.mp rfl⟩

/-- A value says one thing only. -/
theorem Says.unique (h : Says f v d?) (h' : Says f v d'?) : d? = d'? := by
  obtain ⟨g, rfl, hsame⟩ := exists_datum {} h
  obtain ⟨g', rfl, hsame'⟩ := exists_datum {} h'
  have hends : EndsBehind v [] := fun _ => Text.stops_nil
  have hread := (readField_written ⟨[], by simp⟩ h.written hends).mpr ⟨rfl, h, hsame⟩
  rw [(readField_written ⟨[], by simp⟩ h.written hends).mpr ⟨rfl, h', hsame'⟩] at hread
  obtain ⟨rfl, -⟩ := Prod.mk.inj (Except.ok.inj hread)
  rfl

end FrontDoor.Grant
