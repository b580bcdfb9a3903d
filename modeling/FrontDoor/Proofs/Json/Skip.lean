/-
Passing over a value that is well formed.

The loop does not remember where the value began: it goes on from a value to what follows it, with
the same lists and objects open.  So what is shown of a value is that the loop gets from its front
to its end, whatever is open around it (`Passes`), and of the content of a list or object the same
with that list or object open.  The induction is on how the value is written; a list or an object
is opened and closed on the way (`passes_framed`), and a comma leads from one content to the next
(`passes_joined`).

Behind a number nothing may follow that would go on with it (`EndsBehind`).  What follows inside a
list or an object is a comma, a closing octet or whitespace, so there the condition always holds.
-/
import FrontDoor.Proofs.Json.Number
import FrontDoor.Proofs.Json.Text

namespace FrontDoor.Json

open Text (Stops stops_cons dropWhile_append_of_stops)

variable {s t rest : Bytes} {b : UInt8} {frame : Frame} {stack : List Frame}

/-! ### The loop, step by step -/

theorem skipFrom_value (stack : List Frame) (s : Bytes) :
    skipFrom .value stack s =
      match skipSpace s with
      | [] => .error .truncated
      | b :: rest =>
        match opens? b with
        | none =>
          match skipScalar (b :: rest) with
          | .ok after => skipFrom .afterValue stack after
          | .error e => .error e
        | some frame =>
          match skipSpace rest with
          | [] => .error .truncated
          | c :: inner =>
            if c = frame.close then skipFrom .afterValue stack inner
            else
              match beforeValue frame (c :: inner) with
              | .ok next => skipFrom .value (frame :: stack) next
              | .error e => .error e := by
  rw [skipFrom]
  repeat' split
  all_goals simp_all

theorem skipFrom_afterValue (frame : Frame) (stack : List Frame) (s : Bytes) :
    skipFrom .afterValue (frame :: stack) s =
      match skipSpace s with
      | [] => .error .truncated
      | b :: rest =>
        if b = octet ',' then
          match beforeValue frame rest with
          | .ok next => skipFrom .value (frame :: stack) next
          | .error e => .error e
        else if b = frame.close then skipFrom .afterValue stack rest
        else .error .malformed := by
  rw [skipFrom]
  repeat' split
  all_goals simp_all

/-! ### Whitespace -/

theorem skipSpace_gap (gap : Gap) (s : Bytes) : skipSpace (gap ++ s) = skipSpace s := by
  obtain ⟨gap, hgap⟩ := gap
  show skipSpace (gap ++ s) = skipSpace s
  induction gap with
  | nil => rfl
  | cons b gap ih =>
      obtain ⟨hb, hgap⟩ := List.forall_mem_cons.mp hgap
      rw [skipSpace, List.cons_append, List.dropWhile_cons, if_pos hb]
      exact ih hgap

theorem skipSpace_cons (hb : isSpace b = false) (s : Bytes) : skipSpace (b :: s) = b :: s := by
  rw [skipSpace, List.dropWhile_cons, hb]
  rfl

/-- Whitespace goes on with no number. -/
theorem ends_cons (hb : continues b = false) : Ends (b :: s) :=
  stops_cons hb

theorem ends_gap (gap : Gap) (h : Ends rest) : Ends (gap ++ rest) := by
  obtain ⟨gap, hgap⟩ := gap
  cases gap with
  | nil => exact h
  | cons b gap =>
      have hspace := hgap b List.mem_cons_self
      have hall := octet_forall (P := fun b => isSpace b = true → continues b = false)
        (by decide +kernel) b
      exact ends_cons (hall hspace)

/-! ### The front of a value -/

/-- The octet may begin a value. -/
def begins (b : UInt8) : Bool :=
  (b == octet 'n' || b == octet 't' || b == octet 'f' || b == octet '"' || b == octet '-' ||
    isDigit b) || (opens? b).isSome

theorem exists_front_of_number {n : Numeral} (h : WrittenNumber n s) :
    ∃ b t, s = b :: t ∧ (b = octet '-' ∨ isDigit b = true) := by
  cases h with
  | @mk negative whole f e fraction? exponent? digits fraction exponent =>
      cases negative with
      | true => exact ⟨octet '-', _, rfl, .inl rfl⟩
      | false =>
          obtain ⟨hne, hall⟩ := digits.isDigits
          obtain ⟨d, t, rfl⟩ := List.exists_cons_of_ne_nil hne
          exact ⟨d, _, rfl, .inr (hall d List.mem_cons_self)⟩

theorem exists_begins {s : Bytes} (h : Written .value s) : ∃ b t, s = b :: t ∧ begins b = true := by
  cases h with
  | null => exact ⟨_, _, rfl, by decide⟩
  | true => exact ⟨_, _, rfl, by decide⟩
  | false => exact ⟨_, _, rfl, by decide⟩
  | number number =>
      obtain ⟨b, t, rfl, hb⟩ := exists_front_of_number number
      refine ⟨b, t, rfl, ?_⟩
      rcases hb with rfl | hb
      · decide
      · simp only [begins, hb, Bool.or_true, Bool.true_or]
  | string text => exact ⟨_, _, rfl, by decide⟩
  | emptyList gap => exact ⟨_, _, rfl, by decide⟩
  | list elements => exact ⟨_, _, rfl, by decide⟩
  | emptyObject gap => exact ⟨_, _, rfl, by decide⟩
  | object members => exact ⟨_, _, rfl, by decide⟩

/-- What a value may begin with is no whitespace, and neither closes a list or an object nor leads
to its next part. -/
theorem of_begins (h : begins b = true) :
    isSpace b = false ∧ b ≠ octet ']' ∧ b ≠ octet ',' ∧ b ≠ octet '\x7d' := by
  have hall := octet_forall (P := fun b => begins b = true →
    isSpace b = false ∧ b ≠ octet ']' ∧ b ≠ octet ',' ∧ b ≠ octet '\x7d') (by decide +kernel) b
  exact hall h

/-! ### Words, strings and numbers -/

theorem word_eq_ok_iff {w : Bytes} : word w s = .ok rest ↔ s = w ++ rest := by
  constructor
  · intro h
    fun_induction word w s with
    | case1 s => exact Except.ok.inj h
    | case2 => cases h
    | case3 b expected s ih => rw [ih h, List.cons_append]
    | case4 => cases h
  · rintro rfl
    induction w with
    | nil => rw [List.nil_append, word]
    | cons a w ih => rw [List.cons_append, word, if_pos rfl, ih]

theorem skipScalar_number {n : Numeral} (h : WrittenNumber n s) (hrest : Ends rest) :
    skipScalar (s ++ rest) = .ok rest := by
  have hread : skipNumber (s ++ rest) = .ok rest :=
    skipNumber_eq_ok_iff.mpr ⟨n, s, rfl, h, closes_of_ends hrest⟩
  obtain ⟨b, t, rfl, hb⟩ := exists_front_of_number h
  have hall := octet_forall (P := fun b => b = octet '-' ∨ isDigit b = true →
    b ≠ octet 'n' ∧ b ≠ octet 't' ∧ b ≠ octet 'f' ∧ b ≠ octet '"' ∧
      (b = octet '-' || isDigit b) = true) (by decide +kernel) b hb
  obtain ⟨hn, ht, hf, hquote, hnumber⟩ := hall
  rw [List.cons_append] at hread ⊢
  simp only [skipScalar, if_neg hn, if_neg ht, if_neg hf, if_neg hquote, if_pos hnumber, hread]

theorem skipScalar_quoted (h : IsText s) : skipScalar (quoted s ++ rest) = .ok rest := by
  rw [quoted, List.cons_append, List.append_assoc]
  exact skipText_append h

/-! ### Opening, going on and closing -/

/-- The octet that opens a list or an object. -/
def Frame.opening : Frame → UInt8
  | .list => octet '['
  | .object => octet '\x7b'

theorem opens?_opening (frame : Frame) : opens? frame.opening = some frame := by
  cases frame <;> rfl

theorem isSpace_opening (frame : Frame) : isSpace frame.opening = false := by
  cases frame <;> rfl

theorem isSpace_close (frame : Frame) : isSpace frame.close = false := by
  cases frame <;> rfl

theorem continues_close (frame : Frame) : continues frame.close = false := by
  cases frame <;> rfl

theorem close_ne_comma (frame : Frame) : frame.close ≠ octet ',' := by
  cases frame <;> decide

/-- Whitespace in front of what follows a value inside a list or an object is passed over. -/
theorem skipFrom_afterValue_gap (gap : Gap) :
    skipFrom .afterValue (frame :: stack) (gap ++ s) = skipFrom .afterValue (frame :: stack) s := by
  rw [skipFrom_afterValue, skipFrom_afterValue, skipSpace_gap]

theorem skipFrom_value_gap (gap : Gap) :
    skipFrom .value stack (gap ++ s) = skipFrom .value stack s := by
  rw [skipFrom_value, skipFrom_value, skipSpace_gap]

theorem skipFrom_close :
    skipFrom .afterValue (frame :: stack) (frame.close :: rest) =
      skipFrom .afterValue stack rest := by
  rw [skipFrom_afterValue, skipSpace_cons (isSpace_close frame)]
  simp only [if_neg (close_ne_comma frame), if_pos]

theorem skipFrom_comma {next : Bytes} (h : beforeValue frame rest = .ok next) :
    skipFrom .afterValue (frame :: stack) (octet ',' :: rest) =
      skipFrom .value (frame :: stack) next := by
  rw [skipFrom_afterValue, skipSpace_cons (by decide)]
  simp only [if_pos, h]

theorem skipFrom_empty (frame : Frame) (gap : Gap) :
    skipFrom .value stack (frame.opening :: (gap ++ frame.close :: rest)) =
      skipFrom .afterValue stack rest := by
  rw [skipFrom_value, skipSpace_cons (isSpace_opening frame)]
  simp only [opens?_opening, skipSpace_gap, skipSpace_cons (isSpace_close frame), if_pos]

theorem skipSpace_skipSpace (s : Bytes) : skipSpace (skipSpace s) = skipSpace s :=
  List.dropWhile_idempotent isSpace s

theorem skipFrom_opening {next : Bytes} {c : UInt8} (hs : skipSpace s = c :: t)
    (hc : c ≠ frame.close) (h : beforeValue frame s = .ok next) :
    skipFrom .value stack (frame.opening :: s) = skipFrom .value (frame :: stack) next := by
  rw [skipFrom_value, skipSpace_cons (isSpace_opening frame)]
  simp only [opens?_opening, hs, if_neg hc]
  cases frame with
  | list =>
      cases h
      simp only [beforeValue]
      rw [skipFrom_value, skipFrom_value (.list :: stack) s, ← hs, skipSpace_skipSpace]
  | object =>
      have hkey : beforeValue .object (c :: t) = .ok next := by
        rw [← h, beforeValue, beforeValue, skipKey, skipKey, ← hs, skipSpace_skipSpace]
      simp only [hkey]

/-! ### Values -/

/-- What follows a value goes on with no number, if the value is one. -/
def EndsBehind (s rest : Bytes) : Prop :=
  (∃ n, WrittenNumber n s) → Ends rest

/-- The loop gets over the content of a list or an object, which does not close it at once. -/
structure PassesIn (frame : Frame) (s : Bytes) : Prop where
  front : ∀ rest, ∃ c t, skipSpace (s ++ rest) = c :: t ∧ c ≠ frame.close
  passes : ∀ stack rest, Ends rest → ∃ next, beforeValue frame (s ++ rest) = .ok next ∧
    skipFrom .value (frame :: stack) next = skipFrom .afterValue (frame :: stack) rest

/-- The loop gets from the front of a part of a document to its end. -/
def Passes : Form → Bytes → Prop
  | .value, s =>
      ∀ stack rest, EndsBehind s rest →
        skipFrom .value stack (s ++ rest) = skipFrom .afterValue stack rest
  | .elements, s => PassesIn .list s
  | .members, s => PassesIn .object s

theorem passes_scalar (hs : s = b :: t) (hspace : isSpace b = false) (hopens : opens? b = none)
    (h : ∀ rest, EndsBehind s rest → skipScalar (s ++ rest) = .ok rest) : Passes .value s := by
  intro stack rest hrest
  have hscalar := h rest hrest
  rw [hs, List.cons_append] at hscalar ⊢
  rw [skipFrom_value, skipSpace_cons hspace]
  simp only [hopens, hscalar]

theorem passes_framed (h : PassesIn frame s) :
    Passes .value (frame.opening :: (s ++ [frame.close])) := by
  intro stack rest hrest
  obtain ⟨c, t, hs, hc⟩ := h.front (frame.close :: rest)
  obtain ⟨next, hnext, hpasses⟩ :=
    h.passes stack (frame.close :: rest) (ends_cons (continues_close frame))
  rw [List.cons_append, List.append_assoc, List.singleton_append, skipFrom_opening hs hc hnext,
    hpasses, skipFrom_close]

theorem passes_joined (hfirst : PassesIn frame s) (hothers : PassesIn frame t) :
    PassesIn frame (s ++ octet ',' :: t) where
  front := by
    intro rest
    rw [List.append_assoc]
    exact hfirst.front _
  passes := by
    intro stack rest hrest
    obtain ⟨next, hnext, hpasses⟩ :=
      hfirst.passes stack (octet ',' :: (t ++ rest)) (ends_cons (by decide))
    obtain ⟨next', hnext', hpasses'⟩ := hothers.passes stack rest hrest
    refine ⟨next, ?_, ?_⟩
    · rw [List.append_assoc, List.cons_append, hnext]
    · rw [hpasses, skipFrom_comma hnext', hpasses']

theorem passesIn_element (before after : Gap) (hvalue : Written .value s) (h : Passes .value s) :
    PassesIn .list (before ++ (s ++ after)) where
  front := by
    intro rest
    obtain ⟨b, t, rfl, hb⟩ := exists_begins hvalue
    obtain ⟨hspace, hlist, -⟩ := of_begins hb
    refine ⟨b, t ++ after ++ rest, ?_, hlist⟩
    rw [List.append_assoc, skipSpace_gap, List.cons_append, List.cons_append,
      skipSpace_cons hspace]
  passes := by
    intro stack rest hrest
    refine ⟨_, rfl, ?_⟩
    rw [List.append_assoc, List.append_assoc, skipFrom_value_gap,
      h _ _ fun _ => ends_gap after hrest, skipFrom_afterValue_gap]

/-- Behind the key of a member and its colon the value begins. -/
theorem skipKey_append {k : Bytes} (beforeKey afterKey : Gap) (hk : IsText k) :
    skipKey (beforeKey ++ (quoted k ++ (afterKey ++ octet ':' :: s))) = .ok s := by
  have hcolon : colon (afterKey ++ octet ':' :: s) = .ok s := by
    rw [colon, skipSpace_gap, skipSpace_cons (by decide)]
    rfl
  rw [skipKey, skipSpace_gap, quoted, List.cons_append, List.append_assoc,
    skipSpace_cons (by decide)]
  simp only [if_pos, List.singleton_append, skipText_append hk, hcolon]

theorem passesIn_member {k : Bytes} (beforeKey afterKey before after : Gap) (hk : IsText k)
    (h : Passes .value s) :
    PassesIn .object
      (beforeKey ++ (quoted k ++ (afterKey ++ octet ':' :: (before ++ (s ++ after))))) where
  front := by
    intro rest
    rw [List.append_assoc, skipSpace_gap, quoted, List.cons_append, List.cons_append,
      skipSpace_cons (by decide)]
    exact ⟨_, _, rfl, by decide⟩
  passes := by
    intro stack rest hrest
    refine ⟨before ++ (s ++ (after ++ rest)), ?_, ?_⟩
    · rw [beforeValue, ← skipKey_append beforeKey afterKey hk]
      simp only [List.append_assoc, List.cons_append]
    · rw [skipFrom_value_gap, h _ _ fun _ => ends_gap after hrest, skipFrom_afterValue_gap]

/-- **Whatever is written as a value is passed over**, and so is the content of a list or an
object. -/
theorem passes_of_written {form : Form} (h : Written form s) : Passes form s := by
  induction h with
  | null => exact passes_scalar rfl rfl rfl fun rest _ => word_eq_ok_iff.mpr rfl
  | true => exact passes_scalar rfl rfl rfl fun rest _ => word_eq_ok_iff.mpr rfl
  | false => exact passes_scalar rfl rfl rfl fun rest _ => word_eq_ok_iff.mpr rfl
  | number number =>
      obtain ⟨b, t, hs, hb⟩ := exists_front_of_number number
      have hall := octet_forall (P := fun b => b = octet '-' ∨ isDigit b = true →
        isSpace b = false ∧ opens? b = none) (by decide +kernel) b hb
      exact passes_scalar hs hall.1 hall.2 fun rest hrest =>
        skipScalar_number number (hrest ⟨_, number⟩)
  | string text => exact passes_scalar rfl rfl rfl fun rest _ => skipScalar_quoted text
  | emptyList gap =>
      intro stack rest _
      rw [List.cons_append, List.append_assoc]
      exact skipFrom_empty .list gap
  | list elements ih => exact passes_framed ih
  | emptyObject gap =>
      intro stack rest _
      rw [List.cons_append, List.append_assoc]
      exact skipFrom_empty .object gap
  | object members ih => exact passes_framed ih
  | element before after value ih => exact passesIn_element before after value ih
  | moreElements first others ihfirst ihothers => exact passes_joined ihfirst ihothers
  | member beforeKey afterKey before after key value ih =>
      exact passesIn_member beforeKey afterKey before after key ih
  | moreMembers first others ihfirst ihothers => exact passes_joined ihfirst ihothers

theorem skipSpace_written (h : Written .value s) : skipSpace (s ++ rest) = s ++ rest := by
  obtain ⟨b, t, rfl, hb⟩ := exists_begins h
  exact skipSpace_cons (of_begins hb).1 (t ++ rest)

theorem skipFrom_done (s : Bytes) : skipFrom .afterValue [] s = .ok s := by
  rw [skipFrom]

/-- What follows a value is left. -/
theorem skipValue_append (gap : Gap) (h : Written .value s) (hrest : EndsBehind s rest) :
    skipValue (gap ++ (s ++ rest)) = .ok rest := by
  rw [skipValue, skipFrom_value_gap]
  exact (passes_of_written h [] rest hrest).trans (skipFrom_done rest)

/-- Where a value ends is told by what is written. -/
theorem written_append_inj {s' rest' : Bytes} (h : Written .value s) (h' : Written .value s')
    (hrest : EndsBehind s rest) (hrest' : EndsBehind s' rest') (heq : s ++ rest = s' ++ rest') :
    s = s' ∧ rest = rest' := by
  have hskip := passes_of_written h [] rest hrest
  rw [heq, passes_of_written h' [] rest' hrest', skipFrom_done, skipFrom_done] at hskip
  obtain rfl := Except.ok.inj hskip
  exact ⟨List.append_cancel_right heq, rfl⟩

end FrontDoor.Json
