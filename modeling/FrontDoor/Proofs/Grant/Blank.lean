/-
Documents with a blank where the size stands.

The blank is filled with octets, and what is around it stays.  Whatever is filled in, the reader
comes as far as the blank if it gets to the end at all, since what is in front is read as before
(`exists_members_behind`, `exists_elements_behind`).  So a document that is read has a size in its
blank, and tokens that are no JSON are turned down like those that are numbers of another kind.

Filled with a value a document is an object or a list as they were described before, and so it is
with nothing in its blank.  What the two say differs in the size only (`fieldwise_size_iff`), which
makes `size_exact` a statement about every document that is acceptable but for its size.
-/
import FrontDoor.Proofs.Grant.List
import FrontDoor.Proofs.Grant.Size

namespace FrontDoor.Grant

open Json
open Text (bind_eq_ok_iff)

variable {g g' g₀ : Grant} {s token rest : Bytes} {seen fields : List Field}

/-! ### Objects with a blank -/

/-- An object with a blank for the value of a member that is named after the size. -/
structure ObjectBlank where
  front : List Member
  behind : List Member
  /-- What is between the quotes of the key. -/
  keyText : Bytes
  beforeKey : Gap
  afterKey : Gap
  before : Gap
  after : Gap
  opening : Gap
  closing : Gap
  key_written : WrittenText Field.size.name.toList keyText

namespace ObjectBlank

/-- What follows the blank, from the comma or the closing brace on. -/
def tail (o : ObjectBlank) : Bytes :=
  o.after ++ others (octet '\x7d' :: o.closing) o.behind

/-- The member with the blank filled, from after the opening quote of its key on, and what
follows. -/
def opened (o : ObjectBlank) (value : Bytes) : Bytes :=
  o.keyText ++ octet '"' :: (o.afterKey ++ octet ':' :: (o.before ++ (value ++ o.tail)))

/-- The member with the blank filled and what follows. -/
def followed (o : ObjectBlank) (value : Bytes) : Bytes :=
  o.beforeKey ++ octet '"' :: o.opened value

/-- The object with the blank filled. -/
def text (o : ObjectBlank) (value : Bytes) : Bytes :=
  o.opening ++ octet '\x7b' ::
    match o.front with
    | [] => o.followed value
    | m :: ms => m.followedBy (others (octet ',' :: o.followed value) ms)

/-- The fields that the members are about, with the octets of their values. -/
def known (o : ObjectBlank) (value : Bytes) : List (Field × Bytes) :=
  o.front.filterMap Member.known? ++ (.size, value) :: o.behind.filterMap Member.known?

end ObjectBlank

theorem others_append (rest : Bytes) (ms ms' : List Member) :
    others rest (ms ++ ms') = others (others rest ms') ms := by
  induction ms with
  | nil => rfl
  | cons m ms ih => rw [List.cons_append, others, others, ih]

theorem goesOn_others (ms : List Member) : GoesOn (others (octet '\x7d' :: rest) ms) := by
  cases ms with
  | nil => exact goesOn_cons (.inr (.inr rfl))
  | cons m ms => exact goesOn_cons (.inl rfl)

/-- What the reader of members goes on with is followed by another member or the end. -/
theorem goesOn_of_members {r : Grant × Bytes} (h : members false seen g s = .ok r) : GoesOn s := by
  rw [members_eq, nextMember.eq_def] at h
  cases hs : skipSpace s with
  | nil =>
      rw [hs] at h
      cases h
  | cons b t =>
      refine ⟨b, t, hs, ?_⟩
      rw [hs] at h
      by_cases hclose : b = octet '\x7d'
      · exact .inr (.inr hclose)
      · by_cases hcomma : b = octet ','
        · exact .inl hcomma
        · simp [hclose, hcomma] at h

/-- Whatever a member is about, the reader goes on behind it. -/
theorem exists_members_after {first : Bool} {m : Member} {r : Grant × Bytes}
    (hnext : nextMember first s = .ok (.inr (m.opened rest))) (hrest : Ends rest)
    (h : members first seen g s = .ok r) :
    ∃ seen' g', members false seen' g' (m.after ++ rest) = .ok r := by
  have hstep := (members_step hnext hrest).mp h
  cases hm : m.known? with
  | none =>
      rw [hm] at hstep
      exact ⟨_, _, hstep⟩
  | some p =>
      rw [hm] at hstep
      obtain ⟨-, g₁, -, -, hstep⟩ := hstep
      exact ⟨_, g₁, hstep⟩

theorem exists_members_behind {r : Grant × Bytes} (gap : Gap) (ms : List Member)
    (h : members false seen g (gap ++ others (octet ',' :: s) ms) = .ok r) :
    ∃ (gap' : Gap) (seen' : List Field) (g' : Grant),
      members false seen' g' (gap' ++ octet ',' :: s) = .ok r := by
  induction ms generalizing gap seen g with
  | nil => exact ⟨gap, seen, g, h⟩
  | cons m ms ih =>
      have hends : Ends (others (octet ',' :: s) ms) := ends_others (ends_cons (by decide)) ms
      obtain ⟨seen', g', hafter⟩ :=
        exists_members_after (nextMember_comma gap m.beforeKey _) hends h
      exact ih m.after hafter

/-- A reader that gets to the end of the members has read what is in the blank as a size. -/
theorem exists_read_of_members {o : ObjectBlank} {first : Bool} {r : Grant × Bytes}
    (hnext : nextMember first s = .ok (.inr (o.opened token)))
    (h : members first seen g s = .ok r) :
    ∃ (g₁ g₂ : Grant) (rest : Bytes),
      g₁.readField .size (o.before ++ (token ++ o.tail)) = .ok (g₂, rest) ∧
      GoesOn rest := by
  have hkey : Json.text (o.opened token) = .ok (Field.size.name,
      o.afterKey ++ octet ':' :: (o.before ++ (token ++ o.tail))) := text_append o.key_written
  rw [members_eq, hnext] at h
  simp only [member, hkey, named?_name, colon_gap] at h
  split at h
  · cases h
  · rename_i seen' g' rest' hmember
    split at hmember
    · cases hmember
    · obtain ⟨rest₁, hcolon, hmember⟩ := bind_eq_ok_iff.mp hmember
      cases hcolon
      obtain ⟨⟨g₂, rest₂⟩, hread, hmember⟩ := bind_eq_ok_iff.mp hmember
      cases hmember
      exact ⟨g, g₂, rest₂, hread, goesOn_of_members h⟩

theorem exists_read_of_object {o : ObjectBlank} (h : ofDocument (o.text token) = .ok g) :
    ∃ (g₁ g₂ : Grant) (rest : Bytes),
      g₁.readField .size (o.before ++ (token ++ o.tail)) = .ok (g₂, rest) ∧
      GoesOn rest := by
  have hlist : octet '\x7b' ≠ octet '[' := by decide
  obtain ⟨rest, hvalue, -⟩ := ofDocument_iff_value.mp h
  rw [value, ObjectBlank.text, skipSpace_gap, skipSpace_cons (by decide)] at hvalue
  simp only [if_neg hlist, if_pos] at hvalue
  cases hfront : o.front with
  | nil =>
      rw [hfront] at hvalue
      exact exists_read_of_members (nextMember_first o.beforeKey _) hvalue
  | cons m ms =>
      rw [hfront] at hvalue
      have hends : Ends (others (octet ',' :: o.followed token) ms) :=
        ends_others (ends_cons (by decide)) ms
      obtain ⟨seen, g₁, hafter⟩ :=
        exists_members_after (nextMember_first m.beforeKey _) hends hvalue
      obtain ⟨gap, seen, g₂, hblank⟩ := exists_members_behind m.after ms hafter
      exact exists_read_of_members (nextMember_comma gap o.beforeKey _) hblank

/-- The object with a value in its blank. -/
def ObjectBlank.fill (o : ObjectBlank) (value : Bytes) (h : Written .value value) : ObjectText where
  members := o.front ++
    ⟨Field.size.name, o.keyText, value, o.beforeKey, o.afterKey, o.before, o.after,
      o.key_written, h⟩ :: o.behind
  before := o.opening
  inner := ⟨[], fun _ h => absurd h List.not_mem_nil⟩
  after := o.closing

theorem text_fill (o : ObjectBlank) {value : Bytes} (h : Written .value value) :
    (o.fill value h).text = o.text value := by
  unfold ObjectBlank.text ObjectText.text ObjectText.content ObjectBlank.fill
  cases o.front with
  | nil => rfl
  | cons m ms =>
      simp only [List.cons_append, others_append]
      rfl

theorem known_fill (o : ObjectBlank) {value : Bytes} (h : Written .value value) :
    (o.fill value h).known = o.known value := by
  simp [ObjectText.known, ObjectBlank.fill, ObjectBlank.known, Member.known?, named?_name]

/-- When a grant is read from the object with a value in its blank, and which one. -/
theorem ofDocument_objectBlank (o : ObjectBlank) {value : Bytes} (h : Written .value value) :
    ofDocument (o.text value) = .ok g ↔ Fieldwise [] {} (o.known value) g := by
  rw [← text_fill o h, ofDocument_eq_ok_iff, known_fill]

/-! ### Lists with a blank -/

/-- A list with a blank for the value of the size. -/
structure ListBlank where
  front : List Element
  behind : List Element
  before : Gap
  after : Gap
  opening : Gap
  closing : Gap
  /-- The size is the eighth field. -/
  front_length : front.length = 7

namespace ListBlank

/-- What follows the blank, from the comma or the closing bracket on. -/
def tail (l : ListBlank) : Bytes :=
  l.after ++ otherElements (octet ']' :: l.closing) l.behind

/-- The element with the blank filled and what follows. -/
def followed (l : ListBlank) (value : Bytes) : Bytes :=
  l.before ++ (value ++ l.tail)

/-- The list with the blank filled. -/
def text (l : ListBlank) (value : Bytes) : Bytes :=
  l.opening ++ octet '[' ::
    match l.front with
    | [] => l.followed value
    | e :: es => e.followedBy (otherElements (octet ',' :: l.followed value) es)

/-- The fields in front of the size and the one behind it, with the octets of their values. -/
def known (l : ListBlank) (value : Bytes) : List (Field × Bytes) :=
  (Field.all.take 7).zip (l.front.map Element.value) ++
    (.size, value) :: (Field.all.drop 8).zip (l.behind.map Element.value)

end ListBlank

theorem otherElements_append (rest : Bytes) (es es' : List Element) :
    otherElements rest (es ++ es') = otherElements (otherElements rest es') es := by
  induction es with
  | nil => rfl
  | cons e es ih => rw [List.cons_append, otherElements, otherElements, ih]

theorem goesOn_otherElements (es : List Element) :
    GoesOn (otherElements (octet ']' :: rest) es) := by
  cases es with
  | nil => exact goesOn_cons (.inr (.inl rfl))
  | cons e es => exact goesOn_cons (.inl rfl)

/-- What the reader of elements goes on with is followed by another element or the end. -/
theorem goesOn_of_elements {r : Grant × Bytes} (h : elements false g s fields = .ok r) :
    GoesOn s := by
  cases hs : skipSpace s with
  | nil => cases fields <;> simp [elements, hs] at h
  | cons b t =>
      refine ⟨b, t, hs, ?_⟩
      by_cases hclose : b = octet ']'
      · exact .inr (.inl hclose)
      · by_cases hcomma : b = octet ','
        · exact .inl hcomma
        · cases fields <;> simp [elements, hs, hclose, hcomma] at h

/-- The reader of elements passes those in front of another one, each with its field. -/
theorem exists_elements_behind {r : Grant × Bytes} (front fields : List Field) (gap : Gap)
    (es : List Element) (hlength : es.length = front.length)
    (h : elements false g (gap ++ otherElements (octet ',' :: s) es) (front ++ fields) = .ok r) :
    ∃ (gap' : Gap) (g' : Grant), elements false g' (gap' ++ octet ',' :: s) fields = .ok r := by
  induction es generalizing gap front g with
  | nil =>
      obtain rfl := List.eq_nil_of_length_eq_zero hlength.symm
      exact ⟨gap, g, h⟩
  | cons e es ih =>
      obtain ⟨f, front, rfl⟩ := List.exists_cons_of_length_eq_add_one hlength.symm
      have hends : Ends (otherElements (octet ',' :: s) es) :=
        ends_otherElements (ends_cons (by decide)) es
      obtain ⟨g₁, -, -, hafter⟩ := (elements_step (.next gap _) hends).mp h
      exact ih front e.after (Nat.succ.inj hlength) hafter

theorem exists_read_of_elements {l : ListBlank} {r : Grant × Bytes} (gap : Gap) (hne : token ≠ [])
    (htoken : ∀ b ∈ token, isNumberOctet b = true)
    (h : elements false g (gap ++ octet ',' :: l.followed token) (.size :: fields) = .ok r) :
    ∃ (g₁ g₂ : Grant) (rest : Bytes),
      g₁.readField .size (token ++ l.tail) = .ok (g₂, rest) ∧ GoesOn rest := by
  obtain ⟨b, t, rfl⟩ := List.exists_cons_of_ne_nil hne
  obtain ⟨hspace, -, -, hclose⟩ := of_isNumberOctet (htoken b List.mem_cons_self)
  have hcomma : octet ',' ≠ octet ']' := by decide
  have hfront : skipSpace (l.followed (b :: t)) = b :: (t ++ l.tail) := by
    rw [ListBlank.followed, skipSpace_gap, List.cons_append, skipSpace_cons hspace]
  rw [elements, skipSpace_gap, skipSpace_cons (by decide)] at h
  simp only [if_neg hcomma, hfront, if_neg hclose, Bool.false_eq_true, if_false, if_true] at h
  split at h
  · cases h
  · rename_i g₂ rest hread
    exact ⟨g, g₂, rest, hread, goesOn_of_elements h⟩

theorem exists_read_of_list {l : ListBlank} (hne : token ≠ [])
    (htoken : ∀ b ∈ token, isNumberOctet b = true) (h : ofDocument (l.text token) = .ok g) :
    ∃ (g₁ g₂ : Grant) (rest : Bytes),
      g₁.readField .size (token ++ l.tail) = .ok (g₂, rest) ∧ GoesOn rest := by
  obtain ⟨rest, hvalue, -⟩ := ofDocument_iff_value.mp h
  rw [value, ListBlank.text, skipSpace_gap, skipSpace_cons (by decide)] at hvalue
  simp only [if_pos] at hvalue
  obtain ⟨e, es, hfront⟩ := List.exists_cons_of_length_eq_add_one l.front_length
  have hlength : es.length = 6 := by
    have := l.front_length
    rw [hfront] at this
    exact Nat.succ.inj this
  rw [hfront] at hvalue
  have hends : Ends (otherElements (octet ',' :: l.followed token) es) :=
    ends_otherElements (ends_cons (by decide)) es
  obtain ⟨g₁, -, -, hafter⟩ := (elements_step (.first _) hends).mp hvalue
  obtain ⟨gap, g₂, hblank⟩ := exists_elements_behind
    [.text .repoPath, .text .archivePath, .text .archivePrefix, .text .commitId,
      .text .storeLfsPath, .text .lfsOid] [.size, .text .tempPath] e.after es hlength hafter
  exact exists_read_of_elements gap hne htoken hblank

/-- The list with a value in its blank. -/
def ListBlank.fill (l : ListBlank) (value : Bytes) (h : Written .value value) : ListText where
  elements := l.front ++ ⟨value, l.before, l.after, h⟩ :: l.behind
  before := l.opening
  inner := ⟨[], fun _ h => absurd h List.not_mem_nil⟩
  after := l.closing

theorem listText_fill (l : ListBlank) {value : Bytes} (h : Written .value value) :
    (l.fill value h).text = l.text value := by
  unfold ListBlank.text ListText.text ListText.content ListBlank.fill
  cases l.front with
  | nil => rfl
  | cons e es =>
      simp only [List.cons_append, otherElements_append]
      rfl

theorem zip_fill (l : ListBlank) {value : Bytes} (h : Written .value value) :
    Field.all.zip (l.fill value h).values = l.known value := by
  have hfront : (Field.all.take 7).length = (l.front.map Element.value).length := by
    rw [List.length_map, l.front_length]
    rfl
  have hall : Field.all = Field.all.take 7 ++ .size :: Field.all.drop 8 := rfl
  rw [ListBlank.known, ListText.values, ListBlank.fill, List.map_append, List.map_cons,
    ← List.zip_cons_cons, ← List.zip_append hfront, ← hall]

/-- When a grant is read from the list with a value in its blank, and which one. -/
theorem ofDocument_listBlank (l : ListBlank) {value : Bytes} (h : Written .value value) :
    ofDocument (l.text value) = .ok g ↔
      l.behind.length ≤ 1 ∧ Fieldwise [] {} (l.known value) g := by
  have hlength : (l.fill value h).values.length ≤ 9 ↔ l.behind.length ≤ 1 := by
    rw [ListText.values, ListBlank.fill, List.length_map, List.length_append, List.length_cons,
      l.front_length]
    omega
  rw [← listText_fill l h, ofDocument_list_eq_ok_iff, zip_fill, hlength]

/-! ### One value in place of another -/

/-- With a token in the blank a document says what it says with nothing there, and the size. -/
theorem fieldwise_size_iff {front behind : List (Field × Bytes)} (hne : token ≠ [])
    (htoken : ∀ b ∈ token, isNumberOctet b = true)
    (h₀ : Fieldwise [] {} (front ++ (.size, Json.null) :: behind) g₀) :
    Fieldwise [] {} (front ++ (.size, token) :: behind) g ↔
      IsSize token ∧ g = { g₀ with lfsSize := some (decimal token) } := by
  rw [fieldwise_empty_iff] at h₀ ⊢
  have hfields (v : Bytes) : (front ++ (Field.size, v) :: behind).map Prod.fst =
      front.map Prod.fst ++ .size :: behind.map Prod.fst := by simp
  have hset : g = { g₀ with lfsSize := some (decimal token) } ↔
      g.datum? .size = some (.size (decimal token)) ∧ SameBut .size g₀ g := eq_withSize_iff
  rw [hfields] at h₀ ⊢
  obtain ⟨honce, hsaid₀, hkept₀⟩ := h₀
  have hother {f : Field} (hf : f ≠ .size) (v v' : Bytes) :
      (f, v) ∈ front ++ (Field.size, token) :: behind ↔
        (f, v) ∈ front ++ (Field.size, v') :: behind := by
    simp [hf]
  constructor
  · intro hgiven
    obtain ⟨-, hsaid, hkept⟩ := hgiven
    obtain ⟨hsize, hdatum⟩ := (says_size_iff hne htoken).mp
      (hsaid (.size, token) (by simp))
    refine ⟨hsize, hset.mpr ⟨hdatum, ?_⟩⟩
    intro f hf
    by_cases hmem : f ∈ front.map Prod.fst ++ .size :: behind.map Prod.fst
    · rw [← hfields token] at hmem
      obtain ⟨⟨f, v⟩, hv, rfl⟩ := List.mem_map.mp hmem
      exact (hsaid _ hv).unique (hsaid₀ (f, v) ((hother hf v Json.null).mp hv))
    · rw [hkept f hmem, hkept₀ f hmem]
  · intro hgiven
    obtain ⟨hsize, hg⟩ := hgiven
    obtain ⟨hdatum, hsame⟩ := hset.mp hg
    refine ⟨honce, ?_, ?_⟩
    · rintro ⟨f, v⟩ hv
      by_cases hf : f = .size
      · -- No other member is about the size, so this one has the token.
        obtain ⟨hnew, -⟩ := List.nodup_cons.mp (List.nodup_middle.mp honce)
        obtain rfl : v = token := by
          have hv' : v = token ∨ (f, v) ∈ front ++ behind := by
            simpa [hf, or_left_comm] using hv
          refine hv'.resolve_right fun hmem => hnew ?_
          rw [← List.map_append, ← hf]
          exact List.mem_map_of_mem hmem
        rw [hf]
        exact (says_size_iff hne htoken).mpr ⟨hsize, hdatum⟩
      · rw [hsame f hf]
        exact hsaid₀ (f, v) ((hother hf v Json.null).mp hv)
    · intro f hf
      have hne : f ≠ .size := fun h => hf (by simp [h])
      rw [hsame f hne, hkept₀ f hf]

/-! ### Documents with a blank -/

/-- A grant as it may be written, with a blank for the size. -/
inductive Blank
  | object (o : ObjectBlank)
  | list (l : ListBlank)

/-- The document with the blank filled. -/
def Blank.text : Blank → Bytes → Bytes
  | .object o => o.text
  | .list l => l.text

/-- A document in which nothing is wrong but the blank is read with a token just if that is a size,
and says it then. -/
theorem ofDocument_blank {blank : Blank} (h₀ : ofDocument (blank.text Json.null) = .ok g₀)
    (hne : token ≠ []) (htoken : ∀ b ∈ token, isNumberOctet b = true) :
    ofDocument (blank.text token) = .ok g ↔
      IsSize token ∧ g = { g₀ with lfsSize := some (decimal token) } := by
  have hwritten (h : IsSize token) : Written .value token :=
    .number (writtenNumber_of_isWhole ((isSize_iff hne).mp h).1)
  cases blank with
  | object o =>
      have hread₀ := (ofDocument_objectBlank o .null).mp h₀
      have hiff : Fieldwise [] {} (o.known token) g ↔ _ := fieldwise_size_iff hne htoken hread₀
      constructor
      · intro h
        obtain ⟨g₁, g₂, rest, hread, hrest⟩ := exists_read_of_object h
        have hsize : IsSize token := isSize_of_readField o.before hne htoken
          (goesOn_gap o.after (goesOn_others o.behind)) hread hrest
        exact hiff.mp ((ofDocument_objectBlank o (hwritten hsize)).mp h)
      · intro h
        exact (ofDocument_objectBlank o (hwritten h.1)).mpr (hiff.mpr h)
  | list l =>
      obtain ⟨hlength, hread₀⟩ := (ofDocument_listBlank l .null).mp h₀
      have hiff : Fieldwise [] {} (l.known token) g ↔ _ := fieldwise_size_iff hne htoken hread₀
      constructor
      · intro h
        obtain ⟨g₁, g₂, rest, hread, hrest⟩ := exists_read_of_list hne htoken h
        have hsize : IsSize token := isSize_of_readField ⟨[], by simp⟩ hne htoken
          (goesOn_gap l.after (goesOn_otherElements l.behind)) hread hrest
        exact hiff.mp ((ofDocument_listBlank l (hwritten hsize)).mp h).2
      · intro h
        exact (ofDocument_listBlank l (hwritten h.1)).mpr ⟨hlength, hiff.mpr h⟩

/-- **A size is read exactly, or the document is not read.**  Take a document that says a grant when
nothing stands for the size, and put any octets that numbers consist of in that place.  It is read
just if they are digits without a zero in front, unless that is all, and the number they say is
below 2 ^ 64; and then it says that number and else what it said before.  Of the tokens that are
numbers these are the ones without sign, fraction and exponent that are not too large. -/
theorem size_exact {blank : Blank} (h₀ : ofDocument (blank.text Json.null) = .ok g₀) :
    (∀ token : Bytes, token ≠ [] → (∀ b ∈ token, isNumberOctet b = true) → ∀ g,
      ofDocument (blank.text token) = .ok g ↔
        IsSize token ∧ g = { g₀ with lfsSize := some (decimal token) }) ∧
    ∀ (token : Bytes) (n : Numeral), WrittenNumber n token →
      ((∃ g, ofDocument (blank.text token) = .ok g) ↔
        n.negative = false ∧ n.fraction? = none ∧ n.exponent? = none ∧
          decimal n.whole ≤ 2 ^ 64 - 1) := by
  refine ⟨fun token hne htoken g => ofDocument_blank h₀ hne htoken, ?_⟩
  intro token n hn
  obtain ⟨hne, htoken⟩ := isNumberOctet_of_written hn
  rw [← isSize_written_iff hn]
  constructor
  · intro hgiven
    obtain ⟨g, h⟩ := hgiven
    exact ((ofDocument_blank h₀ hne htoken).mp h).1
  · intro hsize
    exact ⟨_, (ofDocument_blank h₀ hne htoken).mpr ⟨hsize, rfl⟩⟩

/-- An object with an empty text and a blank. -/
def oidBlank : ObjectBlank where
  front := [.plain (.text .lfsOid) (quoted []) (.string .nil)]
  behind := []
  keyText := Field.size.name.toList.flatMap String.utf8EncodeChar
  beforeKey := noGap
  afterKey := noGap
  before := noGap
  after := noGap
  opening := noGap
  closing := noGap
  key_written := writtenText_plain (name_plain .size)

/-- The greatest size, one more, and a number that is written with a fraction. -/
theorem size_exact_greatest :
    ofDocument ((Blank.object oidBlank).text (Bytes.ofString "18446744073709551615")) =
        .ok { lfsSize := some 18446744073709551615 } ∧
      (∀ g, ofDocument ((Blank.object oidBlank).text (Bytes.ofString "18446744073709551616")) ≠
        .ok g) ∧
      ∀ g, ofDocument ((Blank.object oidBlank).text (Bytes.ofString "1.0")) ≠ .ok g := by
  have h₀ : ofDocument ((Blank.object oidBlank).text Json.null) = .ok {} := by decide +kernel
  have hexact := (size_exact h₀).1
  refine ⟨(hexact _ (by decide +kernel) (by decide +kernel) _).mpr ⟨⟨?_, ?_, ?_⟩, ?_⟩, ?_, ?_⟩
  · decide +kernel
  · decide +kernel
  · decide +kernel
  · decide +kernel
  · intro g h
    have hsize := ((hexact _ (by decide +kernel) (by decide +kernel) g).mp h).1
    exact absurd hsize.fits (by decide +kernel)
  · intro g h
    have hsize := ((hexact _ (by decide +kernel) (by decide +kernel) g).mp h).1
    exact absurd (hsize.digits (octet '.') (by decide +kernel)) (by decide)

end FrontDoor.Grant
