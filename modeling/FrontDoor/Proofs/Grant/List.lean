/-
A grant written as a list, and grants read back from what is written for them.

A list gives its elements to the fields in their order, so it says of the first fields what an
object says whose members are named after them.  Both readers come to `Fieldwise` over the same
pairs of fields and values, and that is why the two shapes agree.  A list may end early, but not go
on behind the last field.

An object spells a grant if no field is named twice, each value is one of the ways to write what
its field holds, and only fields that hold nothing are left out (`ObjectText.Spells`).  A grant
whose texts are not empty and whose size is below 2 ^ 64 is read back from every such object.
-/
import FrontDoor.Proofs.Grant.Object

namespace FrontDoor.Grant

open Json
open Text (bind_eq_ok_iff)

variable {g g' : Grant} {f : Field} {s v rest rest' : Bytes} {seen fields : List Field}

/-! ### Lists -/

/-- An element of a list, with the whitespace around it. -/
structure Element where
  value : Bytes
  before : Gap
  after : Gap
  value_written : Written .value value

/-- The octets of an element and what follows them. -/
def Element.followedBy (e : Element) (rest : Bytes) : Bytes :=
  e.before ++ (e.value ++ (e.after ++ rest))

/-- Elements behind another one, each led to by a comma, and what follows them. -/
def otherElements (rest : Bytes) : List Element → Bytes
  | [] => rest
  | e :: es => octet ',' :: e.followedBy (otherElements rest es)

/-- A list with whitespace around it. -/
structure ListText where
  elements : List Element
  before : Gap
  /-- What stands between the brackets where there is no element. -/
  inner : Gap
  after : Gap

/-- The elements and what follows them. -/
def ListText.content (l : ListText) (rest : Bytes) : Bytes :=
  match l.elements with
  | [] => l.inner ++ rest
  | e :: es => e.followedBy (otherElements rest es)

def ListText.text (l : ListText) : Bytes :=
  l.before ++ octet '[' :: l.content (octet ']' :: l.after)

/-- The octets of the values in a list. -/
def ListText.values (l : ListText) : List Bytes :=
  l.elements.map Element.value

/-! ### The reader of elements -/

theorem ends_otherElements (hrest : Ends rest) (es : List Element) :
    Ends (otherElements rest es) := by
  cases es with
  | nil => exact hrest
  | cons e es => exact ends_cons (by decide)

/-- A list may end before every field has its element. -/
theorem elements_close (first : Bool) (gap : Gap) (fields : List Field) :
    elements first g (gap ++ octet ']' :: rest) fields = .ok (g, rest) := by
  cases fields with
  | nil =>
      rw [elements, skipSpace_gap, skipSpace_cons (by decide)]
      simp only [if_pos]
  | cons f fields =>
      rw [elements, skipSpace_gap, skipSpace_cons (by decide)]
      simp only [if_pos]

/-- The place of an element is in front of a list, or behind another element and a comma. -/
inductive Place : Bool → Bytes → Bytes → Prop
  | first (s : Bytes) : Place true s s
  | next (gap : Gap) (s : Bytes) : Place false (gap ++ octet ',' :: s) s

theorem skipSpace_followedBy (e : Element) (rest : Bytes) :
    skipSpace (e.followedBy rest) = e.value ++ (e.after ++ rest) := by
  rw [Element.followedBy, skipSpace_gap, skipSpace_written e.value_written]

theorem readField_element (e : Element) (hrest : Ends rest) :
    g.readField f (e.value ++ (e.after ++ rest)) = .ok (g', rest') ↔
      rest' = e.after ++ rest ∧ Says f e.value (g'.datum? f) ∧ SameBut f g g' :=
  readField_written ⟨[], by simp⟩ e.value_written fun _ => ends_gap e.after hrest

/-- Behind the last field no element is read. -/
theorem elements_exceeding {first : Bool} {e : Element}
    (h : Place first s (e.followedBy rest)) : elements first g s [] ≠ .ok (g', rest') := by
  obtain ⟨b, t, hv, hb⟩ := exists_begins e.value_written
  have hclose := (of_begins hb).2.1
  have hfront : skipSpace (e.followedBy rest) = b :: (t ++ (e.after ++ rest)) := by
    rw [skipSpace_followedBy, hv, List.cons_append]
  have hcomma : octet ',' ≠ octet ']' := by decide
  generalize hbehind : e.followedBy rest = behind at h
  rw [elements.eq_def]
  cases h with
  | first =>
      rw [hbehind] at hfront
      simp only [hfront, if_neg hclose]
      exact nofun
  | next gap =>
      rw [skipSpace_gap, skipSpace_cons (by decide)]
      simp only [if_neg hcomma]
      exact nofun

/-- When a field has been read, the reader goes on behind it. -/
theorem elements_behind {input behind : Bytes} {r : Grant × Bytes}
    (hread : ∀ {g₁ : Grant} {rest' : Bytes}, g.readField f input = .ok (g₁, rest') ↔
      rest' = behind ∧ Says f v (g₁.datum? f) ∧ SameBut f g g₁) :
    (match g.readField f input with
      | .error e => Except.error e
      | .ok (g, rest) => elements false g rest fields) = .ok r ↔
      ∃ g₁, Says f v (g₁.datum? f) ∧ SameBut f g g₁ ∧ elements false g₁ behind fields = .ok r := by
  constructor
  · intro hr
    split at hr
    · cases hr
    · rename_i g₁ rest₁ hfield
      obtain ⟨rfl, hsaid, hsame⟩ := hread.mp hfield
      exact ⟨g₁, hsaid, hsame, hr⟩
  · rintro ⟨g₁, hsaid, hsame, hr⟩
    rw [hread.mpr ⟨rfl, hsaid, hsame⟩]
    exact hr

/-- One step of the reader of elements. -/
theorem elements_step {first : Bool} {e : Element} {r : Grant × Bytes}
    (h : Place first s (e.followedBy rest)) (hrest : Ends rest) :
    elements first g s (f :: fields) = .ok r ↔
      ∃ g₁, Says f e.value (g₁.datum? f) ∧ SameBut f g g₁ ∧
        elements false g₁ (e.after ++ rest) fields = .ok r := by
  obtain ⟨b, t, hv, hb⟩ := exists_begins e.value_written
  have hclose := (of_begins hb).2.1
  have hfront : skipSpace (e.followedBy rest) = b :: (t ++ (e.after ++ rest)) := by
    rw [skipSpace_followedBy, hv, List.cons_append]
  have hcomma : octet ',' ≠ octet ']' := by decide
  have hread {g₁ : Grant} {rest' : Bytes} :
      g.readField f (b :: (t ++ (e.after ++ rest))) = .ok (g₁, rest') ↔
        rest' = e.after ++ rest ∧ Says f e.value (g₁.datum? f) ∧ SameBut f g g₁ := by
    rw [← List.cons_append, ← hv]
    exact readField_element e hrest
  generalize hbehind : e.followedBy rest = behind at h
  rw [elements.eq_def]
  cases h with
  | first =>
      rw [hbehind] at hfront
      simp only [hfront, if_neg hclose, if_true]
      exact elements_behind hread
  | next gap =>
      rw [skipSpace_gap, skipSpace_cons (by decide)]
      rw [hbehind] at hfront
      simp only [if_neg hcomma, hfront, if_neg hclose, if_true]
      exact elements_behind hread

theorem elements_nil {first : Bool} (gap : Gap) :
    elements first g (gap ++ octet ']' :: rest) fields = .ok (g', rest') ↔
      rest' = rest ∧ 0 ≤ fields.length ∧ Fieldwise seen g (fields.zip []) g' := by
  rw [elements_close, List.zip_nil_right, fieldwise_nil_iff]
  simp only [Except.ok.injEq, Prod.mk.injEq, Nat.zero_le, true_and]
  constructor
  · rintro ⟨rfl, rfl⟩
    exact ⟨rfl, rfl⟩
  · rintro ⟨rfl, rfl⟩
    exact ⟨rfl, rfl⟩

/-- An element and those behind it are read field by field if those behind it are. -/
theorem elements_cons {first : Bool} {e : Element} {es : List Element}
    (h : Place first s (e.followedBy (otherElements (octet ']' :: rest) es)))
    (hfields : fields.Nodup) (hunseen : ∀ f ∈ fields, f ∉ seen)
    (ih : ∀ fields seen g, fields.Nodup → (∀ f ∈ fields, f ∉ seen) →
      (elements false g (e.after ++ otherElements (octet ']' :: rest) es) fields = .ok (g', rest') ↔
        rest' = rest ∧ es.length ≤ fields.length ∧
          Fieldwise seen g (fields.zip (es.map Element.value)) g')) :
    elements first g s fields = .ok (g', rest') ↔
      rest' = rest ∧ (e :: es).length ≤ fields.length ∧
        Fieldwise seen g (fields.zip ((e :: es).map Element.value)) g' := by
  cases fields with
  | nil =>
      constructor
      · intro hread
        exact absurd hread (elements_exceeding h)
      · rintro ⟨-, hlength, -⟩
        exact absurd hlength (Nat.not_succ_le_zero _)
  | cons f fields =>
      obtain ⟨hnew, hfields⟩ := List.nodup_cons.mp hfields
      have hunseen' : ∀ f' ∈ fields, f' ∉ f :: seen := by
        intro f' hf' hmem
        rcases List.mem_cons.mp hmem with rfl | hmem
        · exact hnew hf'
        · exact hunseen f' (List.mem_cons_of_mem _ hf') hmem
      rw [elements_step h (ends_otherElements (ends_cons (by decide)) es), List.map_cons,
        List.zip_cons_cons, fieldwise_cons_iff]
      simp only [ih fields (f :: seen) _ hfields hunseen', List.length_cons,
        Nat.add_le_add_iff_right]
      constructor
      · rintro ⟨g₁, hsaid, hsame, hrest, hlength, h⟩
        exact ⟨hrest, hlength, hunseen f List.mem_cons_self, g₁, hsaid, hsame, h⟩
      · rintro ⟨hrest, hlength, -, g₁, hsaid, hsame, h⟩
        exact ⟨g₁, hsaid, hsame, hrest, hlength, h⟩

/-- Elements behind another one are read field by field, if there are not more of them than
fields. -/
theorem elements_others (gap : Gap) (es : List Element) (hfields : fields.Nodup)
    (hunseen : ∀ f ∈ fields, f ∉ seen) :
    elements false g (gap ++ otherElements (octet ']' :: rest) es) fields = .ok (g', rest') ↔
      rest' = rest ∧ es.length ≤ fields.length ∧
        Fieldwise seen g (fields.zip (es.map Element.value)) g' := by
  induction es generalizing gap fields seen g with
  | nil => exact elements_nil gap
  | cons e es ih =>
      exact elements_cons (.next gap _) hfields hunseen fun _ _ _ hfields hunseen =>
        ih e.after hfields hunseen

theorem nodup_all : Field.all.Nodup := by
  decide

theorem elements_content (l : ListText) :
    elements true {} (l.content (octet ']' :: rest)) Field.all = .ok (g', rest') ↔
      rest' = rest ∧ l.values.length ≤ 9 ∧ Fieldwise [] {} (Field.all.zip l.values) g' := by
  obtain ⟨es, before, inner, after⟩ := l
  cases es with
  | nil => exact elements_nil inner
  | cons e es =>
      rw [ListText.values, List.length_map]
      exact elements_cons (.first _) nodup_all (fun _ _ => List.not_mem_nil)
        fun _ _ _ hfields hunseen => elements_others e.after es hfields hunseen

/-! ### The whole list -/

/-- When a grant is read from a list, and which one. -/
theorem ofDocument_list_eq_ok_iff (l : ListText) :
    ofDocument l.text = .ok g ↔
      l.values.length ≤ 9 ∧ Fieldwise [] {} (Field.all.zip l.values) g := by
  have hvalue : value l.text = elements true {} (l.content (octet ']' :: l.after)) Field.all := by
    rw [value, ListText.text, skipSpace_gap, skipSpace_cons (by decide)]
    simp only [if_pos]
  refine ofDocument_of_value (P := fun g => l.values.length ≤ 9 ∧
    Fieldwise [] {} (Field.all.zip l.values) g) l.after fun g rest => ?_
  rw [hvalue]
  exact elements_content l

theorem named?_name (f : Field) : Field.named? f.name = some f := by
  rw [Field.named?_eq_some_iff]
  cases f with
  | text f => cases f <;> decide
  | size => decide

/-- An object whose members are named after the first fields is about these fields. -/
theorem known_of_named {o : ObjectText} {fields : List Field} {values : List Bytes}
    (h : o.members.map (fun m => (m.key, m.value)) = (fields.map Field.name).zip values) :
    o.known = fields.zip values := by
  have hknown : o.known = (o.members.map fun m => (m.key, m.value)).filterMap
      fun p => (Field.named? p.1).map fun f => (f, p.2) := by
    rw [List.filterMap_map]
    rfl
  rw [hknown, h, List.zip_map_left, List.filterMap_map]
  have hkept : ((fun p : String × Bytes => (Field.named? p.1).map fun f => (f, p.2)) ∘
      Prod.map Field.name id) = some := by
    funext p
    simp only [Function.comp, Prod.map, named?_name, Option.map_some, id]
  rw [hkept, List.filterMap_some]

/-! ### What is written for a grant -/

/-- What a grant may hold. -/
def Datum.IsValid : Datum → Prop
  | .text value => value ≠ ""
  | .size n => n < 2 ^ 64

/-- What may be written for what a field holds. -/
inductive Spelled : Option Datum → Bytes → Prop
  | null : Spelled none Json.null
  | text {value : String} {body : Bytes} (written : WrittenText value.toList body) :
      Spelled (some (.text value)) (quoted body)
  | size {digits : Bytes} (whole : IsWhole digits) : Spelled (some (.size (decimal digits))) digits

/-- The object is written for the grant: a field is named once at most and with what it holds, and
where it holds something it is named. -/
structure ObjectText.Spells (o : ObjectText) (g : Grant) : Prop where
  once : (o.known.map Prod.fst).Nodup
  spelled : ∀ p ∈ o.known, Spelled (g.datum? p.1) p.2
  complete : ∀ f ∉ o.known.map Prod.fst, g.datum? f = none

theorem says_of_spelled (h : Spelled (g.datum? f) v) (hvalid : ∀ d ∈ g.datum? f, d.IsValid) :
    Says f v (g.datum? f) := by
  generalize hd : g.datum? f = d? at h hvalid
  cases h with
  | null => exact .null
  | @text value body written =>
      cases f with
      | text f => exact .text (hvalid _ rfl) written
      | size =>
          obtain ⟨n, -, hn⟩ := Option.map_eq_some_iff.mp hd
          cases hn
  | @size digits whole =>
      cases f with
      | text f =>
          obtain ⟨value, -, hvalue⟩ := Option.map_eq_some_iff.mp hd
          cases hvalue
      | size => exact .size whole (hvalid _ rfl)

/-- **A grant is read back from whatever is written for it, and a list is read as the object that
names its elements.**  A grant of valid data is read from every object that spells it.  A list of
at most nine values is read if and only if an object is whose members are these values named after
the first fields, and both say the same grant.  From a longer list no grant is read. -/
theorem ofDocument_spelled_and_listed :
    (∀ (g : Grant) (o : ObjectText), (∀ f, ∀ d ∈ g.datum? f, d.IsValid) → o.Spells g →
      ofDocument o.text = .ok g) ∧
    (∀ (l : ListText) (o : ObjectText), l.values.length ≤ 9 →
      o.members.map (fun m => (m.key, m.value)) = (Field.all.map Field.name).zip l.values →
      (ofDocument l.text).toOption = (ofDocument o.text).toOption) ∧
    ∀ l : ListText, 9 < l.values.length → ∀ g, ofDocument l.text ≠ .ok g := by
  refine ⟨?_, ?_, ?_⟩
  · intro g o hvalid hspells
    refine (ofDocument_eq_ok_iff o).mpr (fieldwise_empty_iff.mpr ⟨hspells.once, ?_,
      hspells.complete⟩)
    exact fun p hp => says_of_spelled (hspells.spelled p hp) (hvalid p.1)
  · intro l o hlength hnamed
    refine toOption_eq_of_iff fun g => ?_
    rw [ofDocument_eq_ok_iff, ofDocument_list_eq_ok_iff, known_of_named hnamed]
    exact and_iff_right hlength
  · intro l hlength g h
    exact absurd ((ofDocument_list_eq_ok_iff l).mp h).1 (Nat.not_le.mpr hlength)

/-! ### One grant, spelled -/

/-- The gap of no whitespace. -/
def noGap : Gap :=
  ⟨[], by simp⟩

theorem name_plain (f : Field) : ∀ c ∈ f.name.toList, 0x20 ≤ c.toNat ∧ c ≠ '"' ∧ c ≠ '\\' := by
  cases f with
  | text f => cases f <;> simp [Field.name]
  | size => simp [Field.name]

/-- The member for a field without any whitespace or escape. -/
def Member.plain (f : Field) (value : Bytes) (h : Written .value value) : Member where
  key := f.name
  keyText := f.name.toList.flatMap String.utf8EncodeChar
  value := value
  beforeKey := noGap
  afterKey := noGap
  before := noGap
  after := noGap
  key_written := writtenText_plain (name_plain f)
  value_written := h

theorem known?_plain (f : Field) (value : Bytes) (h : Written .value value) :
    (Member.plain f value h).known? = some (f, value) := by
  rw [Member.known?, Member.plain, named?_name, Option.map_some]

/-- A character outside the basic plane, as a surrogate pair. -/
def escapedClef : Bytes :=
  escape [octet 'd', octet '8', octet '3', octet '4'] ++
    escape [octet 'D', octet 'D', octet '1', octet 'E']

theorem writtenText_escapedClef : WrittenText "𝄞".toList escapedClef := by
  have hlead : WrittenHex 0xD834 [octet 'd', octet '8', octet '3', octet '4'] :=
    hex4?_eq_some_iff.mp (by decide)
  have htrail : WrittenHex 0xDD1E [octet 'D', octet 'D', octet '1', octet 'E'] :=
    hex4?_eq_some_iff.mp (by decide)
  have hchar : WrittenChar '𝄞' escapedClef :=
    .pair hlead htrail (by decide) (by decide) (by decide)
  have htext := WrittenText.cons hchar .nil
  simpa using htext

theorem isWhole_seven : IsWhole [octet '7'] :=
  .inr ⟨isDigits_cons (by decide) (by simp), by decide⟩

/-- A text with an escape, a size and a field without anything, not in the order of the fields. -/
def clefObject : ObjectText where
  members := [.plain .size [octet '7'] (.number (writtenNumber_of_isWhole isWhole_seven)),
    .plain (.text .tempPath) Json.null .null,
    .plain (.text .lfsOid) (quoted escapedClef) (.string (isText_of_writtenText
      writtenText_escapedClef))]
  before := noGap
  inner := noGap
  after := noGap

theorem known_clefObject :
    clefObject.known = [(.size, [octet '7']), (.text .tempPath, Json.null),
      (.text .lfsOid, quoted escapedClef)] := by
  simp only [ObjectText.known, clefObject, List.filterMap_cons, List.filterMap_nil, known?_plain]

theorem clefObject_spells :
    clefObject.Spells { lfsOid := some "𝄞", lfsSize := some 7 } := by
  refine ⟨?_, ?_, ?_⟩
  · rw [known_clefObject]
    decide
  · rw [known_clefObject]
    intro p hp
    simp only [List.mem_cons, List.not_mem_nil, or_false] at hp
    rcases hp with rfl | rfl | rfl
    · exact .size isWhole_seven
    · exact .null
    · exact .text writtenText_escapedClef
  · rw [known_clefObject]
    intro f hf
    cases f with
    | text f => cases f <;> simp [datum?, text?] at hf ⊢
    | size => simp at hf

/-- Nothing, without any whitespace. -/
def nullElement : Element where
  value := Json.null
  before := noGap
  after := noGap
  value_written := .null

/-- A list of so many nulls. -/
def nullList (n : Nat) : ListText where
  elements := List.replicate n nullElement
  before := noGap
  inner := noGap
  after := noGap

/-- The object for a list of one null. -/
def nullObject : ObjectText where
  members := [.plain (.text .glId) Json.null .null]
  before := noGap
  inner := noGap
  after := noGap

theorem clef_spelled_and_nulls_listed :
    ofDocument clefObject.text = .ok { lfsOid := some "𝄞", lfsSize := some 7 } ∧
      (ofDocument (nullList 1).text).toOption = (ofDocument nullObject.text).toOption ∧
      ∀ g, ofDocument (nullList 10).text ≠ .ok g := by
  refine ⟨ofDocument_spelled_and_listed.1 _ clefObject ?_ clefObject_spells,
    ofDocument_spelled_and_listed.2.1 (nullList 1) nullObject (by decide) rfl,
    ofDocument_spelled_and_listed.2.2 (nullList 10) (by decide)⟩
  intro f
  cases f with
  | text f => cases f <;> simp [datum?, text?, Datum.IsValid]
  | size => simp [datum?, Datum.IsValid]

end FrontDoor.Grant
