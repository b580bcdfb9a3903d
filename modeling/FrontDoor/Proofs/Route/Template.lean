/-
Which lists of segments templates have.

Reading a template and writing one down are inverse on the lists that a template can have.
`Canonical` says which lists these are without mentioning either: a literal has no slash in it and
is not spelled like a token, and a length fits into a word.  The only other condition is on the
front.  Slashes there mean nothing, so an empty literal in front would be lost, unless there is
nothing else.

Of a single piece, `segment_segmentText` says that it stands for the segment it is written for, and
`listable_segment` that it stands for no other kind.  What is left concerns slashes: the pieces of
a written template are the texts of its segments (`pieces_dropWhile_behind`).
-/
import FrontDoor.Proofs.Route.Pattern
import FrontDoor.Proofs.Text.Runs
import FrontDoor.Route.Template
import Mathlib.Algebra.Group.Nat.Defs

namespace FrontDoor.Route.Template

variable {segments : List Segment} {s : Segment} {piece ds : List Char} {n bound : Nat}

/-! ### The lists of templates -/

/-- The text is spelled like a token. -/
def IsToken (text : String) : Prop :=
  text = "\x7bdigits\x7d" ∨
    ∃ sign number, (sign = "" ∨ sign = "+") ∧ text = "\x7bhex" ++ (sign ++ number) ++ "\x7d" ∧
      number ≠ "" ∧ (∀ c ∈ number.toList, IsDecimal c) ∧ Text.digitsValue number.toList < 2 ^ 64

/-- A template can list the segment. -/
def Listable : Segment → Prop
  | .literal text => '/' ∉ text.toList ∧ ¬IsToken text
  | .hex n => n < 2 ^ 64
  | .digits => True

/-- The segments are those of a template. -/
structure Canonical (segments : List Segment) : Prop where
  nonempty : segments ≠ []
  listable : ∀ s ∈ segments, Listable s
  /-- An empty literal in front stands alone. -/
  front : segments.head? = some (.literal "") → segments = [.literal ""]

/-! ### Tokens -/

theorem numeral?_eq_some_iff :
    Text.numeral? bound ds = some n ↔
      ds ≠ [] ∧ (∀ c ∈ ds, IsDecimal c) ∧ Text.digitsValue ds = n ∧ n < bound := by
  have hrun : (ds.isEmpty || !ds.all Char.isDigit) = true ↔
      ¬(ds ≠ [] ∧ ∀ c ∈ ds, IsDecimal c) := by
    simp [← isDigit_iff, or_iff_not_imp_left]
  rw [Text.numeral?]
  by_cases hds : ds ≠ [] ∧ ∀ c ∈ ds, IsDecimal c
  · rw [if_neg (fun h => hrun.mp h hds)]
    by_cases hn : Text.digitsValue ds < bound
    · rw [if_pos hn, Option.some.injEq]
      constructor
      · rintro rfl
        exact ⟨hds.1, hds.2, rfl, hn⟩
      · rintro ⟨-, -, hvalue, -⟩
        exact hvalue
    · rw [if_neg hn]
      constructor
      · nofun
      · rintro ⟨-, -, rfl, hlt⟩
        exact absurd hlt hn
  · rw [if_pos (hrun.mpr hds)]
    constructor
    · nofun
    · rintro ⟨hne, hall, -⟩
      exact absurd ⟨hne, hall⟩ hds

theorem signedNumeral?_eq_some_iff :
    Text.signedNumeral? bound ds = some n ↔
      ∃ sign number, (sign = [] ∨ sign = ['+']) ∧ ds = sign ++ number ∧
        Text.numeral? bound number = some n := by
  rw [Text.signedNumeral?.eq_def]
  split
  · rename_i ds
    constructor
    · intro h
      exact ⟨['+'], ds, .inr rfl, rfl, h⟩
    · rintro ⟨sign, number, rfl | rfl, hds, hnumber⟩
      · rw [List.nil_append] at hds
        obtain ⟨-, hall, -⟩ := numeral?_eq_some_iff.mp hnumber
        exact absurd (hall '+' (by rw [← hds]; exact List.mem_cons_self)) (by unfold IsDecimal; decide)
      · obtain rfl := List.cons.inj hds |>.2
        exact hnumber
  · rename_i hplus
    constructor
    · intro h
      exact ⟨[], ds, .inl rfl, rfl, h⟩
    · rintro ⟨sign, number, rfl | rfl, rfl, hnumber⟩
      · exact hnumber
      · exact absurd rfl (hplus number)

theorem hexLength?_eq_some_iff :
    hexLength? piece = some n ↔
      ∃ sign number, (sign = [] ∨ sign = ['+']) ∧
        piece = "\x7bhex".toList ++ (sign ++ number ++ ['\x7d']) ∧
        Text.numeral? Text.wordBound number = some n := by
  simp only [hexLength?, bind, Option.bind_eq_some_iff, List.isPrefixOf?_eq_some_iff_append_eq,
    List.isSuffixOf?_eq_some_iff_append_eq, signedNumeral?_eq_some_iff]
  constructor
  · rintro ⟨_, rfl, _, rfl, sign, number, hsign, rfl, hnumber⟩
    exact ⟨sign, number, hsign, rfl, hnumber⟩
  · rintro ⟨sign, number, hsign, rfl, hnumber⟩
    exact ⟨_, rfl, _, rfl, sign, number, hsign, rfl, hnumber⟩

theorem isToken_iff {text : String} :
    IsToken text ↔ text.toList = digitsToken.toList ∨ ∃ n, hexLength? text.toList = some n := by
  rw [IsToken, String.toList_inj]
  refine or_congr Iff.rfl ?_
  simp only [hexLength?_eq_some_iff, numeral?_eq_some_iff]
  constructor
  · rintro ⟨sign, number, hsign, rfl, hne, hall, hlt⟩
    refine ⟨_, sign.toList, number.toList, ?_, by simp, ?_, hall, rfl, hlt⟩
    · rcases hsign with rfl | rfl
      · exact .inl rfl
      · exact .inr rfl
    · rwa [Ne, String.toList_eq_nil_iff]
  · rintro ⟨n, sign, number, hsign, htext, hne, hall, rfl, hlt⟩
    refine ⟨String.ofList sign, String.ofList number, ?_, ?_, ?_, ?_, ?_⟩
    · rcases hsign with rfl | rfl
      · exact .inl rfl
      · exact .inr rfl
    · rw [← String.toList_inj, htext]
      simp
    · simpa using hne
    · simpa using hall
    · rw [String.toList_ofList]
      exact hlt

/-! ### One piece -/

/-- A piece without slashes stands for a segment that templates list. -/
theorem listable_segment (h : '/' ∉ piece) : Listable (segment piece) := by
  rw [segment]
  split
  · trivial
  · rename_i hdigits
    split
    · rename_i n hn
      obtain ⟨sign, number, -, -, hnumber⟩ := hexLength?_eq_some_iff.mp hn
      exact (numeral?_eq_some_iff.mp hnumber).2.2.2
    · rename_i hhex
      refine ⟨by rwa [String.toList_ofList], ?_⟩
      rw [isToken_iff, String.toList_ofList, hhex]
      simp [hdigits]

theorem eq_nil_of_segment (h : segment piece = .literal "") : piece = [] := by
  rw [segment] at h
  split at h
  · cases h
  · split at h
    · cases h
    · rw [Segment.literal.injEq, ← String.toList_inj, String.toList_ofList] at h
      exact h

/-- The decimal digits of a number are read back as it. -/
theorem numeral?_toString (h : n < bound) : Text.numeral? bound (toString n).toList = some n := by
  rw [Nat.toString_eq_repr, Nat.toList_repr, numeral?_eq_some_iff]
  refine ⟨Nat.toDigits_ne_nil, ?_, Nat.ofDigitChars_toDigits (by decide) (by decide), h⟩
  intro c hc
  exact isDigit_iff.mp (Nat.isDigit_of_mem_toDigits (by decide) (by decide) hc)

theorem hexLength?_segmentText (h : n < 2 ^ 64) :
    hexLength? (segmentText (.hex n)).toList = some n :=
  hexLength?_eq_some_iff.mpr ⟨[], (toString n).toList, .inl rfl, by simp [segmentText],
    numeral?_toString h⟩

/-- A segment that templates list is read back from its text. -/
theorem segment_segmentText (h : Listable s) : segment (segmentText s).toList = s := by
  cases s with
  | literal text =>
      obtain ⟨-, htoken⟩ := h
      rw [isToken_iff, not_or, not_exists] at htoken
      have hhex : hexLength? text.toList = none := Option.eq_none_iff_forall_ne_some.mpr htoken.2
      rw [segmentText, segment, if_neg htoken.1, hhex]
      simp
  | hex n =>
      have hdigits : (segmentText (.hex n)).toList ≠ digitsToken.toList := by
        intro hsame
        have hsecond := congrArg (·[1]?) hsame
        simp [segmentText, digitsToken] at hsecond
      rw [segment, if_neg hdigits, hexLength?_segmentText h]
  | digits => rfl

theorem slash_not_mem_segmentText (h : Listable s) : '/' ∉ (segmentText s).toList := by
  cases s with
  | literal text => exact h.1
  | hex n =>
      intro hmem
      simp [segmentText, Nat.toString_eq_repr, Nat.toList_repr] at hmem
      exact absurd (Nat.isDigit_of_mem_toDigits (by decide) (by decide) hmem) (by decide)
  | digits => decide

theorem segmentText_eq_empty_iff : segmentText s = "" ↔ s = .literal "" := by
  cases s with
  | literal text => simp [segmentText]
  | hex n => simp [segmentText, ← String.toList_inj]
  | digits => simp [segmentText, digitsToken]

/-! ### Slashes -/

/-- Texts without slashes, each behind a slash, are the pieces of what is behind the slashes in
front; an empty text in front is only found when it stands alone. -/
theorem pieces_dropWhile_behind {parts : List (List Char)} (hparts : parts ≠ [])
    (hslash : ∀ part ∈ parts, '/' ∉ part) (hfront : parts.head? = some [] → parts = [[]]) :
    Text.pieces '/' ((Text.behind '/' parts).dropWhile (· == '/')) = parts := by
  obtain ⟨part, others, rfl⟩ := List.exists_cons_of_ne_nil hparts
  obtain ⟨hpart, hothers⟩ := List.forall_mem_cons.mp hslash
  cases part with
  | nil =>
      rw [hfront rfl]
      rfl
  | cons c part =>
      have hc : (c == '/') = false := by
        rw [beq_eq_false_iff_ne]
        rintro rfl
        exact hpart List.mem_cons_self
      rw [Text.behind_cons, List.dropWhile_cons, if_pos (by decide), List.cons_append,
        List.dropWhile_cons, hc, if_neg (by decide), ← List.cons_append,
        Text.pieces_append_behind _ hothers, Text.pieces_of_not_mem hpart]
      rfl

theorem toList_render (segments : List Segment) :
    (render segments).toList =
      Text.behind '/' (segments.map fun s => (segmentText s).toList) := by
  have hslashed : render segments = slashed (segments.map segmentText) := by
    rw [render, slashed, List.map_map]
    rfl
  rw [hslashed, toList_slashed, List.map_map]
  rfl

/-! ### Reading and writing -/

theorem parse_render (h : Canonical segments) : parse (render segments) = segments := by
  have hpieces : Text.pieces '/' ((render segments).toList.dropWhile (· == '/')) =
      segments.map fun s => (segmentText s).toList := by
    rw [toList_render]
    refine pieces_dropWhile_behind (by simpa using h.nonempty) ?_ ?_
    · intro part hpart
      obtain ⟨s, hs, rfl⟩ := List.mem_map.mp hpart
      exact slash_not_mem_segmentText (h.listable s hs)
    · intro hhead
      rw [List.head?_map, Option.map_eq_some_iff] at hhead
      obtain ⟨s, hs, hempty⟩ := hhead
      rw [String.toList_eq_nil_iff, segmentText_eq_empty_iff] at hempty
      rw [h.front (hs.trans (congrArg some hempty))]
      rfl
  rw [parse, hpieces, List.map_map]
  refine (List.map_congr_left ?_).trans (List.map_id segments)
  intro s hs
  exact segment_segmentText (h.listable s hs)

theorem canonical_parse (template : String) : Canonical (parse template) := by
  refine ⟨by simp [parse, Text.pieces], ?_, ?_⟩
  · intro s hs
    obtain ⟨piece, hpiece, rfl⟩ := List.mem_map.mp hs
    exact listable_segment (Text.not_mem_of_mem_pieces hpiece)
  · intro hhead
    rw [parse] at hhead ⊢
    have hstops := Text.stops_dropWhile (· == '/') template.toList
    cases hrest : template.toList.dropWhile (· == '/') with
    | nil => rfl
    | cons c rest =>
        -- The first piece begins with a character that is no slash, so it is not empty.
        rw [hrest] at hhead hstops
        have hc : c ≠ '/' := by simpa using hstops c rfl
        rw [Text.pieces, Text.cut_cons_ne hc, List.map_cons, List.head?_cons,
          Option.some.injEq] at hhead
        exact absurd (eq_nil_of_segment hhead) (List.cons_ne_nil _ _)

theorem parse_slashes (n : Nat) (template : String) :
    parse (String.ofList (List.replicate n '/') ++ template) = parse template := by
  have hdrop : (List.replicate n '/' ++ template.toList).dropWhile (· == '/') =
      template.toList.dropWhile (· == '/') :=
    List.dropWhile_append_of_pos (by simp)
  rw [parse, String.toList_append, String.toList_ofList, hdrop, parse]

/-- **Reading and writing templates are inverse on the lists that templates have.**  What is read
from a template is canonical, and a list is canonical exactly if it is read back from what is
written for it.  Slashes added in front of a template change nothing.  So the template written for
what was read from another one stands for the same segments and accepts the same paths. -/
theorem parse_render_eq_iff :
    (∀ template, Canonical (parse template)) ∧
    (∀ segments, parse (render segments) = segments ↔ Canonical segments) ∧
    (∀ (n : Nat) (template : String),
      parse (String.ofList (List.replicate n '/') ++ template) = parse template) ∧
    ∀ template, parse (render (parse template)) = parse template ∧
      ∀ path, (Pattern.tail (parse (render (parse template)))).accepts path =
        (Pattern.tail (parse template)).accepts path := by
  refine ⟨canonical_parse, ?_, parse_slashes, ?_⟩
  · intro segments
    constructor
    · intro h
      rw [← h]
      exact canonical_parse _
    · exact parse_render
  · intro template
    have hsame := parse_render (canonical_parse template)
    refine ⟨hsame, ?_⟩
    intro path
    rw [hsame]

/-- Pieces that are almost tokens are literals. -/
example : parse "//\x7bhex\x7d/\x7bhex+064\x7d/\x7bhex-1\x7d/\x7bhex18446744073709551616\x7d//" =
    [.literal "\x7bhex\x7d", .hex 64, .literal "\x7bhex-1\x7d",
      .literal "\x7bhex18446744073709551616\x7d", .literal "", .literal ""] := by
  decide

end FrontDoor.Route.Template
