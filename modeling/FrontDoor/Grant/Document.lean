/-
Reading a grant from the backend's JSON.

The document is an object with the nine names as keys, or a list of the values in the order of
the fields.  Keys that name no field are passed over with their values, whatever these hold.  A
field that occurs a second time is refused at its key.  A field that does not occur, or is null,
is absent, and so is an empty text.
-/
import FrontDoor.Grant.Basic
import FrontDoor.Json.Skip

namespace FrontDoor.Grant

open Json (Problem octet skipSpace)

/-- How reading fails at a value of a kind that is not wanted: the value is looked at far enough
to tell whether it is a value at all. -/
def unwanted (s : Bytes) : Problem :=
  match s with
  | [] => .truncated
  | b :: rest =>
    let after {α : Type} : Except Problem α → Problem
      | .ok _ => .mismatched
      | .error e => e
    if b = octet 'n' then after (Json.word [octet 'u', octet 'l', octet 'l'] rest)
    else if b = octet 't' then after (Json.word [octet 'r', octet 'u', octet 'e'] rest)
    else if b = octet 'f' then after (Json.word [octet 'a', octet 'l', octet 's', octet 'e'] rest)
    else if b = octet '"' then after (Json.text rest)
    else if b = octet '-' || Json.isDigit b then after (Json.number s)
    else if (Json.opens? b).isSome then .mismatched
    else .malformed

/-- The text of a field: a string that is not empty, or nothing for null and for an empty one. -/
def fieldText (s : Bytes) : Except Problem (Option String × Bytes) :=
  match skipSpace s with
  | [] => .error .truncated
  | b :: rest =>
    if b = octet 'n' then
      (Json.word [octet 'u', octet 'l', octet 'l'] rest).map fun rest => (none, rest)
    else if b = octet '"' then
      (Json.text rest).map fun (value, rest) => (if value.isEmpty then none else some value, rest)
    else .error (unwanted (b :: rest))

/-- The size in a field: a natural number of at most 64 bits, or nothing for null. -/
def fieldSize (s : Bytes) : Except Problem (Option Nat × Bytes) :=
  match skipSpace s with
  | [] => .error .truncated
  | b :: rest =>
    if b = octet 'n' then
      (Json.word [octet 'u', octet 'l', octet 'l'] rest).map fun rest => (none, rest)
    else if b = octet '-' || Json.isDigit b then
      match Json.number (b :: rest) with
      | .ok (.natural n, rest) => .ok (some n, rest)
      | .ok (.other, _) => .error .mismatched
      | .error e => .error e
    else .error (unwanted (b :: rest))

/-- The grant with the value in front put under the field. -/
def readField (g : Grant) (field : Field) (s : Bytes) : Except Problem (Grant × Bytes) :=
  match field with
  | .text f => (fieldText s).map fun (value, rest) => (g.withText value f, rest)
  | .size => (fieldSize s).map fun (value, rest) => ({ g with lfsSize := value }, rest)

/-- One member of an object, from after the opening quote of its key: the fields seen with it,
the grant after it and what follows. -/
def member (seen : List Field) (g : Grant) (s : Bytes) :
    Except Problem (List Field × Grant × Bytes) :=
  match Json.text s with
  | .error e => .error e
  | .ok (key, rest) =>
    match Field.named? key with
    | some field =>
      if seen.contains field then .error .mismatched
      else do
        let rest ← Json.colon rest
        let (g, rest) ← g.readField field rest
        return (field :: seen, g, rest)
    | none => do
      let rest ← Json.colon rest
      let rest ← Json.skipValue rest
      return (seen, g, rest)

/-- From where the next key should be, what follows its opening quote. -/
def keyStart (s : Bytes) : Except Problem Bytes :=
  match skipSpace s with
  | [] => .error .truncated
  | b :: rest => if b = octet '"' then .ok rest else .error .malformed

/-- The members of an object after its first ones: nothing when it ends here, and otherwise what
follows the opening quote of the next key. -/
def nextMember (first : Bool) (s : Bytes) : Except Problem (Bytes ⊕ Bytes) :=
  match skipSpace s with
  | [] => .error .truncated
  | b :: rest =>
    if b = octet '\x7d' then .ok (.inl rest)
    else if first then (keyStart (b :: rest)).map .inr
    else if b = octet ',' then (keyStart rest).map .inr
    else .error .malformed

/-! ### How much a reader leaves -/

theorem length_fieldText {s : Bytes} {r : Option String × Bytes} (h : fieldText s = .ok r) :
    r.2.length ≤ s.length := by
  have hs := Json.length_skipSpace s
  unfold fieldText at h
  split at h
  · cases h
  · rename_i b t ht
    rw [ht] at hs
    have hw {w u : Bytes} (hw : Json.word w t = .ok u) := Json.length_word hw
    have hx {u : String × Bytes} (hx : Json.text t = .ok u) := Json.length_text hx
    simp only [Except.map] at h
    grind

theorem length_fieldSize {s : Bytes} {r : Option Nat × Bytes} (h : fieldSize s = .ok r) :
    r.2.length ≤ s.length := by
  have hs := Json.length_skipSpace s
  unfold fieldSize at h
  split at h
  · cases h
  · rename_i b t ht
    rw [ht] at hs
    have hw {w u : Bytes} (hw : Json.word w t = .ok u) := Json.length_word hw
    have hx {u : Json.Number × Bytes} (hx : Json.number (b :: t) = .ok u) := Json.length_number hx
    simp only [Except.map] at h
    grind

theorem length_readField {g : Grant} {field : Field} {s : Bytes} {r : Grant × Bytes}
    (h : g.readField field s = .ok r) : r.2.length ≤ s.length := by
  cases field with
  | text f =>
    simp only [readField, Except.map] at h
    split at h
    · cases h
    · rename_i hv
      cases h
      exact length_fieldText hv
  | size =>
    simp only [readField, Except.map] at h
    split at h
    · cases h
    · rename_i hv
      cases h
      exact length_fieldSize hv

theorem length_member {seen : List Field} {g : Grant} {s : Bytes}
    {r : List Field × Grant × Bytes} (h : member seen g s = .ok r) :
    r.2.2.length < s.length := by
  simp only [member, bind, Except.bind, pure, Except.pure] at h
  split at h
  · cases h
  · rename_i key rest hk
    have hk := Json.length_text hk
    split at h
    · rename_i field _
      split at h
      · cases h
      · split at h
        · cases h
        · rename_i hc
          have hc := Json.length_colon hc
          split at h
          · cases h
          · rename_i hf
            have hf := length_readField hf
            cases h
            simp only at *
            omega
    · split at h
      · cases h
      · rename_i hc
        have hc := Json.length_colon hc
        split at h
        · cases h
        · rename_i hv
          have hv := Json.length_skipValue hv
          cases h
          simp only at *
          omega

theorem length_keyStart {s rest : Bytes} (h : keyStart s = .ok rest) :
    rest.length < s.length := by
  have hs := Json.length_skipSpace s
  unfold keyStart at h
  split at h
  · cases h
  · rename_i b t ht
    rw [ht] at hs
    grind

theorem length_nextMember {first : Bool} {s rest : Bytes}
    (h : nextMember first s = .ok (.inr rest)) : rest.length < s.length := by
  have hs := Json.length_skipSpace s
  unfold nextMember at h
  split at h
  · cases h
  · rename_i b t ht
    rw [ht] at hs
    have h₁ {u : Bytes} (h₁ : keyStart (b :: t) = .ok u) := length_keyStart h₁
    have h₂ {u : Bytes} (h₂ : keyStart t = .ok u) := length_keyStart h₂
    simp only [Except.map] at h
    grind

/-! ### The whole document -/

/-- The members of an object up to its closing brace. -/
def members (first : Bool) (seen : List Field) (g : Grant) (s : Bytes) :
    Except Problem (Grant × Bytes) :=
  match _hn : nextMember first s with
  | .error e => .error e
  | .ok (.inl rest) => .ok (g, rest)
  | .ok (.inr key) =>
    match _hm : member seen g key with
    | .error e => .error e
    | .ok (seen, g, rest) => members false seen g rest
termination_by s.length
decreasing_by
  have h₁ := length_nextMember _hn
  have h₂ := length_member _hm
  simp only at h₂
  omega

/-- The elements of a list up to its closing bracket, one for each of the fields at most. -/
def elements (first : Bool) (g : Grant) (s : Bytes) :
    List Field → Except Problem (Grant × Bytes)
  | [] =>
    match skipSpace s with
    | [] => .error .truncated
    | b :: rest => if b = octet ']' then .ok (g, rest) else .error .malformed
  | field :: fields =>
    match skipSpace s with
    | [] => .error .truncated
    | b :: rest =>
      if b = octet ']' then .ok (g, rest)
      else if first then
        match g.readField field (b :: rest) with
        | .error e => .error e
        | .ok (g, rest) => elements false g rest fields
      else if b = octet ',' then
        match skipSpace rest with
        | [] => .error .truncated
        | c :: rest =>
          if c = octet ']' then .error .malformed
          else
            match g.readField field (c :: rest) with
            | .error e => .error e
            | .ok (g, rest) => elements false g rest fields
      else .error .malformed

/-- The grant in front and what follows it. -/
def value (s : Bytes) : Except Problem (Grant × Bytes) :=
  match skipSpace s with
  | [] => .error .truncated
  | b :: rest =>
    if b = octet '[' then elements true {} rest Field.all
    else if b = octet '\x7b' then members true [] {} rest
    else .error (unwanted (b :: rest))

/-- The grant a document says. -/
def ofDocument (s : Bytes) : Except Problem Grant :=
  match value s with
  | .error e => .error e
  | .ok (g, rest) => if (skipSpace rest).isEmpty then .ok g else .error .malformed

end FrontDoor.Grant
