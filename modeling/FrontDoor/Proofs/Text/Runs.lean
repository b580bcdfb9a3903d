/-
Reading from the front of a text.

A reader takes the longest run of characters of one kind and goes on with what is left.  When a
text was put together from parts, the run may not reach into the next part: it stops where that
part begins, as soon as its first character is of no such kind.

The text may be one of characters or of octets, so their type is a parameter here.  Steps of a
reader may also fail, and then the reader does (`bind_eq_ok_iff`).
-/
import Mathlib.Data.List.TakeWhile

namespace FrontDoor.Text

variable {α : Type} {p : α → Bool} {s t : List α}

/-! ### Steps that may fail -/

section Steps

variable {ε β γ : Type} {x : Except ε β}

/-- A step that may fail and what follows it succeed when both do. -/
theorem bind_eq_ok_iff {f : β → Except ε γ} {b : γ} :
    (x >>= f) = .ok b ↔ ∃ a, x = .ok a ∧ f a = .ok b := by
  cases x with
  | error e =>
      constructor
      · intro h
        cases h
      · intro hgiven
        obtain ⟨a, h, -⟩ := hgiven
        cases h
  | ok a =>
      constructor
      · intro h
        exact ⟨a, rfl, h⟩
      · intro hgiven
        obtain ⟨a', h, hf⟩ := hgiven
        cases h
        exact hf

theorem map_eq_ok_iff {f : β → γ} {b : γ} : x.map f = .ok b ↔ ∃ a, x = .ok a ∧ f a = b := by
  cases x with
  | error e =>
      constructor
      · intro h
        cases h
      · intro hgiven
        obtain ⟨a, h, -⟩ := hgiven
        cases h
  | ok a =>
      constructor
      · intro h
        exact ⟨a, rfl, Except.ok.inj h⟩
      · intro hgiven
        obtain ⟨a', h, rfl⟩ := hgiven
        cases h
        rfl

/-- A step that succeeds for all of a text has a result for each character of it. -/
theorem exists_of_mapM {f : α → Option β} {results : List β} (h : s.mapM f = some results) {c : α}
    (hc : c ∈ s) : ∃ b ∈ results, f c = some b := by
  induction s generalizing results with
  | nil => cases hc
  | cons d s ih =>
      rw [List.mapM_cons] at h
      obtain ⟨b, hb, h⟩ := Option.bind_eq_some_iff.mp h
      obtain ⟨others, hothers, h⟩ := Option.bind_eq_some_iff.mp h
      cases h
      rcases List.mem_cons.mp hc with rfl | hc
      · exact ⟨b, List.mem_cons_self, hb⟩
      · obtain ⟨b', hmem, hb'⟩ := ih hothers hc
        exact ⟨b', List.mem_cons_of_mem _ hmem, hb'⟩

end Steps

/-! ### Runs -/

/-- A run of such characters ends in front of the text. -/
def Stops (p : α → Bool) (t : List α) : Prop :=
  ∀ c ∈ t.head?, p c = false

theorem stops_nil : Stops p [] := by
  intro c hc
  cases hc

theorem stops_cons {c : α} (h : p c = false) : Stops p (c :: t) := by
  intro d hd
  obtain rfl := Option.some.inj hd
  exact h

theorem takeWhile_append_of_stops (ht : Stops p t) :
    (s ++ t).takeWhile p = s.takeWhile p := by
  induction s with
  | nil =>
      cases t with
      | nil => rfl
      | cons c t => simp [ht c rfl]
  | cons c s ih =>
      rw [List.cons_append, List.takeWhile_cons, List.takeWhile_cons, ih]

theorem dropWhile_append_of_stops (ht : Stops p t) :
    (s ++ t).dropWhile p = s.dropWhile p ++ t := by
  induction s with
  | nil =>
      cases t with
      | nil => rfl
      | cons c t => simp [ht c rfl]
  | cons c s ih =>
      rw [List.cons_append, List.dropWhile_cons, List.dropWhile_cons, ih]
      by_cases h : p c = true <;> simp [h]

/-- A part of such characters is the whole run. -/
theorem takeWhile_append_of_all (hs : ∀ c ∈ s, p c = true) (ht : Stops p t) :
    (s ++ t).takeWhile p = s := by
  rw [takeWhile_append_of_stops ht, List.takeWhile_eq_self_iff.mpr hs]

theorem dropWhile_append_of_all (hs : ∀ c ∈ s, p c = true) (ht : Stops p t) :
    (s ++ t).dropWhile p = t := by
  rw [dropWhile_append_of_stops ht, List.dropWhile_eq_nil_iff.mpr hs, List.nil_append]

/-- The run in front of a text reaches at least as far as that in front of a part of it. -/
theorem takeWhile_prefix_append (p : α → Bool) (s t : List α) :
    s.takeWhile p <+: (s ++ t).takeWhile p := by
  induction s with
  | nil => exact List.nil_prefix
  | cons c s ih =>
      rw [List.cons_append, List.takeWhile_cons, List.takeWhile_cons]
      by_cases hc : p c = true
      · rw [if_pos hc, if_pos hc]
        exact (List.prefix_cons_inj c).mpr ih
      · rw [if_neg hc]
        exact List.nil_prefix

/-- A run ends within the first part of a text if not all of that is of the kind. -/
theorem run_append_of_mem {c : α} (hc : c ∈ s) (h : p c = false) :
    (s ++ t).takeWhile p = s.takeWhile p ∧ (s ++ t).dropWhile p = s.dropWhile p ++ t := by
  induction s with
  | nil => cases hc
  | cons d s ih =>
      rw [List.cons_append, List.takeWhile_cons, List.takeWhile_cons, List.dropWhile_cons,
        List.dropWhile_cons]
      by_cases hd : p d = true
      · obtain ⟨htake, hdrop⟩ : (s ++ t).takeWhile p = s.takeWhile p ∧
            (s ++ t).dropWhile p = s.dropWhile p ++ t := by
          refine ih ((List.mem_cons.mp hc).resolve_left ?_)
          rintro rfl
          rw [h] at hd
          cases hd
        rw [if_pos hd, if_pos hd, if_pos hd, if_pos hd, htake, hdrop]
        exact ⟨rfl, rfl⟩
      · rw [if_neg hd, if_neg hd, if_neg hd, if_neg hd]
        exact ⟨rfl, rfl⟩

/-- What is left begins with no such character. -/
theorem stops_dropWhile (p : α → Bool) (s : List α) : Stops p (s.dropWhile p) := by
  induction s with
  | nil => exact stops_nil
  | cons c s ih =>
      rw [List.dropWhile_cons]
      by_cases h : p c = true
      · rw [if_pos h]
        exact ih
      · rw [if_neg h]
        exact stops_cons (Bool.eq_false_iff.mpr h)

/-- A character of another kind is left. -/
theorem mem_dropWhile {c : α} (hc : c ∈ s) (h : p c = false) : c ∈ s.dropWhile p := by
  rw [← List.takeWhile_append_dropWhile (p := p) (l := s), List.mem_append] at hc
  refine hc.resolve_left fun hrun => ?_
  rw [List.mem_takeWhile_imp hrun] at h
  cases h

/-- The run in front of a text and what is left are its parts. -/
theorem run_eq_iff {front rest : List α} :
    s.takeWhile p = front ∧ s.dropWhile p = rest ↔
      s = front ++ rest ∧ (∀ c ∈ front, p c = true) ∧ Stops p rest := by
  constructor
  · intro hgiven
    obtain ⟨rfl, rfl⟩ := hgiven
    exact ⟨List.takeWhile_append_dropWhile.symm, fun c hc => List.mem_takeWhile_imp hc,
      stops_dropWhile p s⟩
  · intro hgiven
    obtain ⟨rfl, hfront, hrest⟩ := hgiven
    exact ⟨takeWhile_append_of_all hfront hrest, dropWhile_append_of_all hfront hrest⟩

/-- What stands in front of the first such character, and what behind it, is told by the text. -/
theorem append_cons_inj [DecidableEq α] {c : α} {s' t' : List α} (hs : c ∉ s) (hs' : c ∉ s')
    (h : s ++ c :: t = s' ++ c :: t') : s = s' ∧ t = t' := by
  have hall (l : List α) (hl : c ∉ l) : ∀ d ∈ l, (d != c) = true := by
    intro d hd
    rw [bne_iff_ne]
    rintro rfl
    exact hl hd
  have hstops (l : List α) : Stops (· != c) (c :: l) := stops_cons (bne_self_eq_false c)
  have hfront := congrArg (List.takeWhile (· != c)) h
  have hbehind := congrArg (List.dropWhile (· != c)) h
  rw [takeWhile_append_of_all (hall s hs) (hstops t),
    takeWhile_append_of_all (hall s' hs') (hstops t')] at hfront
  rw [dropWhile_append_of_all (hall s hs) (hstops t),
    dropWhile_append_of_all (hall s' hs') (hstops t')] at hbehind
  exact ⟨hfront, (List.cons.inj hbehind).2⟩

/-- What stands behind the last such character, or the whole text if there is none. -/
theorem behind_last [DecidableEq α] (c : α) (s : List α) :
    (c ∉ s ∧ (s.reverse.takeWhile (· != c)).reverse = s) ∨
      ∃ front, s = front ++ c :: (s.reverse.takeWhile (· != c)).reverse := by
  have hsplit := congrArg List.reverse
    (List.takeWhile_append_dropWhile (p := (· != c)) (l := s.reverse))
  rw [List.reverse_append, List.reverse_reverse] at hsplit
  cases hfound : s.reverse.dropWhile (· != c) with
  | nil =>
      left
      rw [hfound, List.reverse_nil, List.nil_append] at hsplit
      refine ⟨?_, hsplit⟩
      intro hc
      have hall := List.dropWhile_eq_nil_iff.mp hfound c (List.mem_reverse.mpr hc)
      simp at hall
  | cons d front =>
      right
      have hstops := stops_dropWhile (· != c) s.reverse d
      rw [hfound] at hstops hsplit
      obtain rfl : d = c := by simpa using hstops rfl
      refine ⟨front.reverse, hsplit.symm.trans ?_⟩
      rw [List.reverse_cons, List.append_assoc, List.singleton_append]

end FrontDoor.Text
