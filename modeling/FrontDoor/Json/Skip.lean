/-
Passing over a JSON value that nobody asks for.

Only the form of the value is checked, however deep it nests.  The lists and objects that are
open stand on a stack, so passing over a value is one loop: where a value is expected it is read
or opened, and after a value either a comma leads to the next one or the innermost list or object
is closed.
-/
import FrontDoor.Json.Number

namespace FrontDoor.Json

/-- An open list or object. -/
inductive Frame
  | list
  | object
  deriving DecidableEq, Repr

/-- The octet that closes it. -/
def Frame.close : Frame → UInt8
  | .list => octet ']'
  | .object => octet '}'

/-- What follows the colon after a key. -/
def colon (s : Bytes) : Except Problem Bytes :=
  match skipSpace s with
  | [] => .error .truncated
  | b :: rest => if b = octet ':' then .ok rest else .error .malformed

/-- What follows a key and its colon; `s` begins where the key should. -/
def skipKey (s : Bytes) : Except Problem Bytes :=
  match skipSpace s with
  | [] => .error .truncated
  | b :: rest =>
    if b = octet '"' then
      match skipText rest with
      | .ok rest => colon rest
      | .error e => .error e
    else .error .malformed

/-- Where the next value inside the frame begins; an object has a key before it. -/
def beforeValue (frame : Frame) (s : Bytes) : Except Problem Bytes :=
  match frame with
  | .list => .ok s
  | .object => skipKey s

/-- What follows a value that is neither a list nor an object. -/
def skipScalar (s : Bytes) : Except Problem Bytes :=
  match s with
  | [] => .error .truncated
  | b :: rest =>
    if b = octet 'n' then word [octet 'u', octet 'l', octet 'l'] rest
    else if b = octet 't' then word [octet 'r', octet 'u', octet 'e'] rest
    else if b = octet 'f' then word [octet 'a', octet 'l', octet 's', octet 'e'] rest
    else if b = octet '"' then skipText rest
    else if b = octet '-' || isDigit b then skipNumber s
    else .error .malformed

/-- The list or object that the octet opens. -/
def opens? (b : UInt8) : Option Frame :=
  if b = octet '[' then some .list else if b = octet '\x7b' then some .object else none

/-! ### How much a reader leaves -/

theorem length_colon {s rest : Bytes} (h : colon s = .ok rest) : rest.length < s.length := by
  have := length_skipSpace s
  unfold colon at h
  split at h
  · cases h
  · rename_i b t h'
    rw [h'] at this
    grind

theorem length_skipKey {s rest : Bytes} (h : skipKey s = .ok rest) : rest.length < s.length := by
  have := length_skipSpace s
  unfold skipKey at h
  split at h
  · cases h
  · rename_i b t h'
    rw [h'] at this
    split at h
    · split at h
      · rename_i h''
        have := length_skipText h''
        have := length_colon h
        grind
      · cases h
    · cases h

theorem length_beforeValue {frame : Frame} {s rest : Bytes} (h : beforeValue frame s = .ok rest) :
    rest.length ≤ s.length := by
  cases frame with
  | list => cases h; exact Nat.le_refl _
  | object => exact Nat.le_of_lt (length_skipKey h)

theorem length_skipScalar {s rest : Bytes} (h : skipScalar s = .ok rest) :
    rest.length < s.length := by
  unfold skipScalar at h
  split at h
  · cases h
  · rename_i b t
    have hw {w : Bytes} (hw : word w t = .ok rest) := length_word hw
    have ht (ht : skipText t = .ok rest) := length_skipText ht
    have hn (hn : skipNumber (b :: t) = .ok rest) := length_skipNumber hn
    grind

/-! ### The loop -/

/-- What the loop expects next. -/
inductive Phase
  | value
  /-- A comma or the end of the innermost frame. -/
  | afterValue
  deriving DecidableEq, Repr

/-- What follows the value that is being passed over. -/
def skipFrom (phase : Phase) (stack : List Frame) (s : Bytes) : Except Problem Bytes :=
  match phase, stack with
  | .value, stack =>
    match _hs : skipSpace s with
    | [] => .error .truncated
    | b :: rest =>
      match opens? b with
      | none =>
        match _h : skipScalar (b :: rest) with
        | .ok after => skipFrom .afterValue stack after
        | .error e => .error e
      | some frame =>
        match _ht : skipSpace rest with
        | [] => .error .truncated
        | c :: inner =>
          if c = frame.close then skipFrom .afterValue stack inner
          else
            match _h : beforeValue frame (c :: inner) with
            | .ok next => skipFrom .value (frame :: stack) next
            | .error e => .error e
  | .afterValue, [] => .ok s
  | .afterValue, frame :: stack =>
    match _hs : skipSpace s with
    | [] => .error .truncated
    | b :: rest =>
      if b = octet ',' then
        match _h : beforeValue frame rest with
        | .ok next => skipFrom .value (frame :: stack) next
        | .error e => .error e
      else if b = frame.close then skipFrom .afterValue stack rest
      else .error .malformed
termination_by s.length
decreasing_by
  · exact Nat.lt_of_lt_of_le (length_skipScalar _h) (_hs ▸ length_skipSpace s)
  · have h₁ := _hs ▸ length_skipSpace s
    have h₂ := _ht ▸ length_skipSpace rest
    simp only [List.length_cons] at h₁ h₂
    omega
  · have h₁ := _hs ▸ length_skipSpace s
    have h₂ := _ht ▸ length_skipSpace rest
    have h₃ := length_beforeValue _h
    simp only [List.length_cons] at h₁ h₂ h₃
    omega
  · have h₁ := _hs ▸ length_skipSpace s
    have h₃ := length_beforeValue _h
    simp only [List.length_cons] at h₁
    omega
  · have h₁ := _hs ▸ length_skipSpace s
    simp only [List.length_cons] at h₁
    omega

/-- What follows the value in front. -/
def skipValue (s : Bytes) : Except Problem Bytes :=
  skipFrom .value [] s

theorem length_skipFrom {phase : Phase} {stack : List Frame} {s rest : Bytes}
    (h : skipFrom phase stack s = .ok rest) : rest.length ≤ s.length := by
  have step {a b : Bytes} {c : UInt8} (h : skipSpace a = c :: b) : b.length < a.length := by
    have := length_skipSpace a
    rw [h] at this
    exact this
  fun_induction skipFrom phase stack s with
  | case1 => cases h
  | case2 _ _ _ _ hs _ _ hv ih =>
    have := ih h
    have := step hs
    have := length_skipScalar hv
    grind
  | case3 => cases h
  | case4 => cases h
  | case5 _ _ _ _ hs _ _ _ ht ih =>
    have := ih h
    have := step hs
    have := step ht
    omega
  | case6 _ _ _ _ hs _ _ _ _ ht _ _ hv ih =>
    have := ih h
    have := step hs
    have := step ht
    have := length_beforeValue hv
    grind
  | case7 => cases h
  | case8 => cases h; exact Nat.le_refl _
  | case9 => cases h
  | case10 _ _ _ _ _ hv hs ih =>
    have := ih h
    have := step hs
    have := length_beforeValue hv
    omega
  | case11 => cases h
  | case12 _ _ _ _ hs _ ih =>
    have := ih h
    have := step hs
    omega
  | case13 => cases h

theorem length_skipValue {s rest : Bytes} (h : skipValue s = .ok rest) :
    rest.length ≤ s.length :=
  length_skipFrom h

end FrontDoor.Json
