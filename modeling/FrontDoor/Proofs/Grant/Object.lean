/-
A grant written as an object.

An object is any list of members with whitespace between them, and a key may be spelled with
escapes.  Of a member the reader keeps no more than the field that its key names and what its value
says there, so what it reads is told by the pairs of fields and values alone (`ObjectText.known`):
`ofDocument_eq_ok_iff` says when a grant is read and which one.  The order of the members does not
matter for that, nor do the members whose key names no field.

The induction is on the members.  Behind each of them the reader has seen one field more and holds
a grant that differs in this field, and `fieldwise_cons_iff` takes the same step on the side of the
pairs.
-/
import FrontDoor.Proofs.Grant.Fields

namespace FrontDoor.Grant

open Json
open Text (bind_eq_ok_iff)

variable {g g' : Grant} {f : Field} {s v rest : Bytes} {seen : List Field}
  {pairs : List (Field × Bytes)}

/-! ### Objects -/

/-- A member of an object, with the whitespace around its key and its value. -/
structure Member where
  key : String
  /-- What is between the quotes of the key. -/
  keyText : Bytes
  value : Bytes
  beforeKey : Gap
  afterKey : Gap
  before : Gap
  after : Gap
  key_written : WrittenText key.toList keyText
  value_written : Written .value value

/-- The octets of a member from after its opening quote on, and what follows them. -/
def Member.opened (m : Member) (rest : Bytes) : Bytes :=
  m.keyText ++ octet '"' ::
    (m.afterKey ++ octet ':' :: (m.before ++ (m.value ++ (m.after ++ rest))))

/-- The octets of a member and what follows them. -/
def Member.followedBy (m : Member) (rest : Bytes) : Bytes :=
  m.beforeKey ++ octet '"' :: m.opened rest

/-- The field that the key names, with the octets of the value. -/
def Member.known? (m : Member) : Option (Field × Bytes) :=
  (Field.named? m.key).map fun f => (f, m.value)

/-- Members behind another one, each led to by a comma, and what follows them. -/
def others (rest : Bytes) : List Member → Bytes
  | [] => rest
  | m :: ms => octet ',' :: m.followedBy (others rest ms)

/-- An object with whitespace around it. -/
structure ObjectText where
  members : List Member
  before : Gap
  /-- What stands between the braces where there is no member. -/
  inner : Gap
  after : Gap

/-- The members and what follows them. -/
def ObjectText.content (o : ObjectText) (rest : Bytes) : Bytes :=
  match o.members with
  | [] => o.inner ++ rest
  | m :: ms => m.followedBy (others rest ms)

def ObjectText.text (o : ObjectText) : Bytes :=
  o.before ++ octet '\x7b' :: o.content (octet '\x7d' :: o.after)

/-- The fields that the members are about, with the octets of their values. -/
def ObjectText.known (o : ObjectText) : List (Field × Bytes) :=
  o.members.filterMap Member.known?

/-! ### What the members say -/

/-- A grant read from members whose fields had not been seen: the fields are other ones each time,
each holds what its value says, and the rest is kept. -/
structure Fieldwise (seen : List Field) (g : Grant) (pairs : List (Field × Bytes)) (g' : Grant) :
    Prop where
  once : (pairs.map Prod.fst).Nodup
  unseen : ∀ f ∈ pairs.map Prod.fst, f ∉ seen
  said : ∀ p ∈ pairs, Says p.1 p.2 (g'.datum? p.1)
  kept : ∀ f ∉ pairs.map Prod.fst, g'.datum? f = g.datum? f

theorem fieldwise_nil_iff : Fieldwise seen g [] g' ↔ g' = g := by
  constructor
  · intro h
    exact ext_datum fun f => h.kept f List.not_mem_nil
  · rintro rfl
    exact ⟨List.nodup_nil, nofun, nofun, fun _ _ => rfl⟩

theorem fieldwise_cons_iff :
    Fieldwise seen g ((f, v) :: pairs) g' ↔
      f ∉ seen ∧ ∃ g₁, Says f v (g₁.datum? f) ∧ SameBut f g g₁ ∧
        Fieldwise (f :: seen) g₁ pairs g' := by
  constructor
  · intro h
    obtain ⟨hnew, honce⟩ := List.nodup_cons.mp h.once
    have hsaid := h.said (f, v) List.mem_cons_self
    obtain ⟨g₁, hset, hsame⟩ := exists_datum g hsaid
    refine ⟨h.unseen f List.mem_cons_self, g₁, hset ▸ hsaid, hsame, honce, ?_, ?_, ?_⟩
    · intro f' hf' hmem
      rcases List.mem_cons.mp hmem with rfl | hseen
      · exact hnew hf'
      · exact h.unseen f' (List.mem_cons_of_mem _ hf') hseen
    · exact fun p hp => h.said p (List.mem_cons_of_mem _ hp)
    · intro f' hf'
      by_cases heq : f' = f
      · rw [heq, hset]
      · rw [hsame f' heq]
        refine h.kept f' fun hmem => ?_
        rcases List.mem_cons.mp hmem with hmem | hmem
        · exact heq hmem
        · exact hf' hmem
  · rintro ⟨hseen, g₁, hsaid, hsame, h⟩
    have hnew : f ∉ pairs.map Prod.fst := fun hmem => h.unseen f hmem List.mem_cons_self
    refine ⟨List.nodup_cons.mpr ⟨hnew, h.once⟩, ?_, ?_, ?_⟩
    · intro f' hf'
      rcases List.mem_cons.mp hf' with rfl | hf'
      · exact hseen
      · exact fun hmem => h.unseen f' hf' (List.mem_cons_of_mem _ hmem)
    · intro p hp
      rcases List.mem_cons.mp hp with rfl | hp
      · rw [h.kept f hnew]
        exact hsaid
      · exact h.said p hp
    · intro f' hf'
      obtain ⟨hne, hf'⟩ := List.ne_and_not_mem_of_not_mem_cons hf'
      rw [h.kept f' hf', hsame f' hne]

/-! ### The reader of members -/

theorem members_eq (first : Bool) (seen : List Field) (g : Grant) (s : Bytes) :
    members first seen g s =
      match nextMember first s with
      | .error e => .error e
      | .ok (.inl rest) => .ok (g, rest)
      | .ok (.inr key) =>
        match member seen g key with
        | .error e => .error e
        | .ok (seen, g, rest) => members false seen g rest := by
  rw [members]
  repeat' split
  all_goals simp_all

theorem nextMember_close (first : Bool) (gap : Gap) :
    nextMember first (gap ++ octet '\x7d' :: rest) = .ok (.inl rest) := by
  rw [nextMember, skipSpace_gap, skipSpace_cons (by decide)]
  simp only [if_pos]

theorem keyStart_gap (gap : Gap) (s : Bytes) : keyStart (gap ++ octet '"' :: s) = .ok s := by
  rw [keyStart, skipSpace_gap, skipSpace_cons (by decide)]
  simp only [if_pos]

theorem nextMember_first (gap : Gap) (s : Bytes) :
    nextMember true (gap ++ octet '"' :: s) = .ok (.inr s) := by
  have hquote : octet '"' ≠ octet '\x7d' := by decide
  have hstart : keyStart (octet '"' :: s) = .ok s := keyStart_gap ⟨[], by simp⟩ s
  rw [nextMember, skipSpace_gap, skipSpace_cons (by decide)]
  simp only [if_neg hquote, if_pos, hstart]
  rfl

theorem nextMember_comma (gap gap' : Gap) (s : Bytes) :
    nextMember false (gap ++ octet ',' :: (gap' ++ octet '"' :: s)) = .ok (.inr s) := by
  have hcomma : octet ',' ≠ octet '\x7d' := by decide
  rw [nextMember, skipSpace_gap, skipSpace_cons (by decide)]
  simp only [if_neg hcomma, if_pos, keyStart_gap]
  rfl

theorem colon_gap (gap : Gap) (s : Bytes) : colon (gap ++ octet ':' :: s) = .ok s := by
  rw [colon, skipSpace_gap, skipSpace_cons (by decide)]
  simp only [if_pos]

theorem text_opened (m : Member) (rest : Bytes) :
    Json.text (m.opened rest) =
      .ok (m.key, m.afterKey ++ octet ':' :: (m.before ++ (m.value ++ (m.after ++ rest)))) :=
  text_append m.key_written

/-- A member whose key names no field is passed over. -/
theorem member_unknown {m : Member} (hm : Field.named? m.key = none) (hrest : Ends rest) :
    member seen g (m.opened rest) = .ok (seen, g, m.after ++ rest) := by
  have hskip := skipValue_append m.before m.value_written fun _ => ends_gap m.after hrest
  simp only [member, text_opened, hm, colon_gap, hskip, bind, Except.bind]
  rfl

/-- A member whose key names a field is read if the field has not been seen and its value says
something there. -/
theorem member_known {m : Member} (hm : Field.named? m.key = some f) (hrest : Ends rest)
    {r : List Field × Grant × Bytes} :
    member seen g (m.opened rest) = .ok r ↔
      f ∉ seen ∧ ∃ g₁, Says f m.value (g₁.datum? f) ∧ SameBut f g g₁ ∧
        r = (f :: seen, g₁, m.after ++ rest) := by
  have hends : EndsBehind m.value (m.after ++ rest) := fun _ => ends_gap m.after hrest
  simp only [member, text_opened, hm, List.contains_iff_mem]
  by_cases hseen : f ∈ seen
  · simp [hseen]
  · simp only [if_neg hseen, bind_eq_ok_iff, colon_gap, Except.ok.injEq, exists_eq_left',
      Prod.exists, readField_written m.before m.value_written hends]
    constructor
    · rintro ⟨g₁, rest', ⟨rfl, hsaid, hsame⟩, h⟩
      cases h
      exact ⟨hseen, g₁, hsaid, hsame, rfl⟩
    · rintro ⟨-, g₁, hsaid, hsame, rfl⟩
      exact ⟨g₁, _, ⟨rfl, hsaid, hsame⟩, rfl⟩

/-- One step of the reader of members. -/
theorem members_step {first : Bool} {m : Member} {r : Grant × Bytes}
    (h : nextMember first s = .ok (.inr (m.opened rest))) (hrest : Ends rest) :
    members first seen g s = .ok r ↔
      match m.known? with
      | none => members false seen g (m.after ++ rest) = .ok r
      | some (f, v) => f ∉ seen ∧ ∃ g₁, Says f v (g₁.datum? f) ∧ SameBut f g g₁ ∧
          members false (f :: seen) g₁ (m.after ++ rest) = .ok r := by
  rw [members_eq, h, Member.known?]
  cases hm : Field.named? m.key with
  | none => simp only [member_unknown hm hrest, Option.map_none]
  | some f =>
      simp only [Option.map_some]
      constructor
      · intro hread
        cases hmember : member seen g (m.opened rest) with
        | error e =>
            rw [hmember] at hread
            cases hread
        | ok r₁ =>
            obtain ⟨hseen, g₁, hsaid, hsame, rfl⟩ := (member_known hm hrest).mp hmember
            rw [hmember] at hread
            exact ⟨hseen, g₁, hsaid, hsame, hread⟩
      · rintro ⟨hseen, g₁, hsaid, hsame, hread⟩
        simp only [(member_known hm hrest).mpr ⟨hseen, g₁, hsaid, hsame, rfl⟩]
        exact hread

theorem ends_others (hrest : Ends rest) (ms : List Member) : Ends (others rest ms) := by
  cases ms with
  | nil => exact hrest
  | cons m ms => exact ends_cons (by decide)

/-- A member and those behind it are read field by field if those behind it are. -/
theorem members_cons {first : Bool} {m : Member} {ms : List Member} {rest' : Bytes}
    (h : nextMember first s = .ok (.inr (m.opened (others (octet '\x7d' :: rest) ms))))
    (ih : ∀ seen g, members false seen g (m.after ++ others (octet '\x7d' :: rest) ms) =
      .ok (g', rest') ↔ rest' = rest ∧ Fieldwise seen g (ms.filterMap Member.known?) g') :
    members first seen g s = .ok (g', rest') ↔
      rest' = rest ∧ Fieldwise seen g ((m :: ms).filterMap Member.known?) g' := by
  rw [members_step h (ends_others (ends_cons (by decide)) ms), List.filterMap_cons]
  cases m.known? with
  | none => exact ih seen g
  | some p =>
      obtain ⟨f, v⟩ := p
      simp only [ih, fieldwise_cons_iff]
      constructor
      · rintro ⟨hseen, g₁, hsaid, hsame, hrest, h⟩
        exact ⟨hrest, hseen, g₁, hsaid, hsame, h⟩
      · rintro ⟨hrest, hseen, g₁, hsaid, hsame, h⟩
        exact ⟨hseen, g₁, hsaid, hsame, hrest, h⟩

theorem members_nil {first : Bool} (gap : Gap) {rest' : Bytes} :
    members first seen g (gap ++ octet '\x7d' :: rest) = .ok (g', rest') ↔
      rest' = rest ∧ Fieldwise seen g [] g' := by
  rw [members_eq, nextMember_close, fieldwise_nil_iff]
  simp only [Except.ok.injEq, Prod.mk.injEq]
  constructor
  · rintro ⟨rfl, rfl⟩
    exact ⟨rfl, rfl⟩
  · rintro ⟨rfl, rfl⟩
    exact ⟨rfl, rfl⟩

/-- Members behind another one are read field by field. -/
theorem members_others (gap : Gap) (ms : List Member) {rest' : Bytes} :
    members false seen g (gap ++ others (octet '\x7d' :: rest) ms) = .ok (g', rest') ↔
      rest' = rest ∧ Fieldwise seen g (ms.filterMap Member.known?) g' := by
  induction ms generalizing gap seen g with
  | nil => exact members_nil gap
  | cons m ms ih => exact members_cons (nextMember_comma gap m.beforeKey _) fun _ _ => ih m.after

theorem members_content (o : ObjectText) {rest' : Bytes} :
    members true [] {} (o.content (octet '\x7d' :: rest)) = .ok (g', rest') ↔
      rest' = rest ∧ Fieldwise [] {} o.known g' := by
  obtain ⟨ms, before, inner, after⟩ := o
  cases ms with
  | nil => exact members_nil inner
  | cons m ms =>
      exact members_cons (nextMember_first m.beforeKey _) fun _ _ => members_others m.after ms

/-! ### The whole object -/

/-- A document says a grant where only whitespace follows the value. -/
theorem ofDocument_iff_value :
    ofDocument s = .ok g ↔ ∃ rest, value s = .ok (g, rest) ∧ ∀ b ∈ rest, isSpace b = true := by
  have hall (rest : Bytes) : (skipSpace rest).isEmpty = true ↔ ∀ b ∈ rest, isSpace b = true := by
    rw [List.isEmpty_iff]
    exact List.dropWhile_eq_nil_iff
  rw [ofDocument]
  constructor
  · intro h
    split at h
    · cases h
    · rename_i g' rest hvalue
      split at h
      · rename_i hspace
        cases h
        exact ⟨rest, hvalue, (hall rest).mp hspace⟩
      · cases h
  · rintro ⟨rest, hvalue, hspace⟩
    rw [hvalue]
    simp only [if_pos ((hall rest).mpr hspace)]

/-- A document of one value with whitespace behind it says what the value says. -/
theorem ofDocument_of_value {P : Grant → Prop} (gap : Gap)
    (h : ∀ g rest, value s = .ok (g, rest) ↔ rest = gap ∧ P g) : ofDocument s = .ok g ↔ P g := by
  rw [ofDocument_iff_value]
  constructor
  · rintro ⟨rest, hvalue, -⟩
    exact ((h g rest).mp hvalue).2
  · intro hg
    exact ⟨gap, (h g gap).mpr ⟨rfl, hg⟩, gap.property⟩

/-- When a grant is read from an object, and which one. -/
theorem ofDocument_eq_ok_iff (o : ObjectText) :
    ofDocument o.text = .ok g ↔ Fieldwise [] {} o.known g := by
  have hvalue : value o.text = members true [] {} (o.content (octet '\x7d' :: o.after)) := by
    have hlist : octet '\x7b' ≠ octet '[' := by decide
    rw [value, ObjectText.text, skipSpace_gap, skipSpace_cons (by decide)]
    simp only [if_neg hlist, if_pos]
  refine ofDocument_of_value o.after fun g rest => ?_
  rw [hvalue]
  exact members_content o

theorem fieldwise_empty_iff :
    Fieldwise [] {} pairs g ↔ (pairs.map Prod.fst).Nodup ∧
      (∀ p ∈ pairs, Says p.1 p.2 (g.datum? p.1)) ∧
      ∀ f ∉ pairs.map Prod.fst, g.datum? f = none := by
  constructor
  · intro h
    exact ⟨h.once, h.said, fun f hf => by rw [h.kept f hf, datum?_empty]⟩
  · rintro ⟨honce, hsaid, hkept⟩
    exact ⟨honce, fun _ _ => List.not_mem_nil, hsaid,
      fun f hf => by rw [hkept f hf, datum?_empty]⟩

theorem Fieldwise.perm {pairs' : List (Field × Bytes)} (h : Fieldwise seen g pairs g')
    (hperm : pairs.Perm pairs') : Fieldwise seen g pairs' g' where
  once := (hperm.map Prod.fst).nodup_iff.mp h.once
  unseen f hf := h.unseen f ((hperm.map Prod.fst).mem_iff.mpr hf)
  said p hp := h.said p (hperm.mem_iff.mpr hp)
  kept f hf := h.kept f fun hmem => hf ((hperm.map Prod.fst).mem_iff.mp hmem)

/-- Values that say something in different fields make a grant. -/
theorem exists_fieldwise (honce : (pairs.map Prod.fst).Nodup)
    (hunseen : ∀ f ∈ pairs.map Prod.fst, f ∉ seen)
    (hsaid : ∀ p ∈ pairs, ∃ d?, Says p.1 p.2 d?) (g : Grant) :
    ∃ g', Fieldwise seen g pairs g' := by
  induction pairs generalizing seen g with
  | nil => exact ⟨g, fieldwise_nil_iff.mpr rfl⟩
  | cons p pairs ih =>
      obtain ⟨f, v⟩ := p
      obtain ⟨hnew, honce⟩ := List.nodup_cons.mp honce
      obtain ⟨d?, hd⟩ := hsaid (f, v) List.mem_cons_self
      obtain ⟨g₁, hset, hsame⟩ := exists_datum g hd
      have hunseen' : ∀ f' ∈ pairs.map Prod.fst, f' ∉ f :: seen := by
        intro f' hf' hmem
        rcases List.mem_cons.mp hmem with rfl | hmem
        · exact hnew hf'
        · exact hunseen f' (List.mem_cons_of_mem _ hf') hmem
      obtain ⟨g', h⟩ := ih honce hunseen' (fun p hp => hsaid p (List.mem_cons_of_mem _ hp)) g₁
      exact ⟨g', fieldwise_cons_iff.mpr
        ⟨hunseen f List.mem_cons_self, g₁, hset ▸ hd, hsame, h⟩⟩

theorem toOption_eq_of_iff {x y : Except Problem Grant} (h : ∀ g, x = .ok g ↔ y = .ok g) :
    x.toOption = y.toOption := by
  cases x with
  | ok g => rw [(h g).mp rfl]
  | error e =>
      cases y with
      | ok g => cases (h g).mpr rfl
      | error e' => rfl

/-- **An object is read field by field.**  It is read just if no field is named twice and the value
of each field that is named says something there.  Then every field holds what its own member
says, and nothing where there is none.  So the result is told by the fields and their values alone:
members may stand in another order, and others that name no field may stand among them. -/
theorem ofDocument_object (o : ObjectText) :
    ((∃ g, ofDocument o.text = .ok g) ↔
      (o.known.map Prod.fst).Nodup ∧ ∀ p ∈ o.known, ∃ d?, Says p.1 p.2 d?) ∧
    (∀ g, ofDocument o.text = .ok g → ∀ f,
      (f ∉ o.known.map Prod.fst → g.datum? f = none) ∧
        ∀ v, (f, v) ∈ o.known → Says f v (g.datum? f)) ∧
    ∀ o' : ObjectText, o'.known.Perm o.known →
      (ofDocument o'.text).toOption = (ofDocument o.text).toOption := by
  refine ⟨?_, ?_, ?_⟩
  · simp only [ofDocument_eq_ok_iff]
    constructor
    · rintro ⟨g, h⟩
      exact ⟨h.once, fun p hp => ⟨_, h.said p hp⟩⟩
    · rintro ⟨honce, hsaid⟩
      exact exists_fieldwise honce (fun _ _ => List.not_mem_nil) hsaid {}
  · intro g h f
    obtain ⟨-, hsaid, hkept⟩ := fieldwise_empty_iff.mp ((ofDocument_eq_ok_iff o).mp h)
    exact ⟨hkept f, fun v hv => hsaid (f, v) hv⟩
  · intro o' hperm
    refine toOption_eq_of_iff fun g => ?_
    rw [ofDocument_eq_ok_iff, ofDocument_eq_ok_iff]
    exact ⟨fun h => h.perm hperm, fun h => h.perm hperm.symm⟩

end FrontDoor.Grant
