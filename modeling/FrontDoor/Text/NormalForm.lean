/-
The normal form of a text.

Texts that differ only in whether a composite or its parts are written, or in the order of marks
that do not get in each other's way, have one normal form: composites are taken apart, marks put in
the order of their classes, and what can be composed is composed.  The text holds no character that
merely repeats another.
-/
import FrontDoor.Text.CombiningClass
import FrontDoor.Text.Composite

namespace FrontDoor.Text

/-! ### Taking apart -/

/-- How often the base of a composite may be a composite again. -/
def deepest : Nat := 3

/-- A character taken apart, its base up to `depth` times. -/
def partsWithin : Nat → Char → List Char
  | 0, c => [c]
  | depth + 1, c =>
    match parts? c with
    | some (base, second) => partsWithin depth base ++ [second]
    | none => [c]

/-- A text with its composites taken apart. -/
def takenApart (s : List Char) : List Char :=
  s.flatMap (partsWithin deepest)

/-! ### Order of marks -/

/-- A character with its combining class. -/
abbrev Classed := Nat × Char

/-- Puts a character after the others, of which the last comes first, but before marks of higher
classes unless it begins anew. -/
def insertMark (c : Classed) : List Classed → List Classed
  | [] => [c]
  | d :: earlier =>
    if 0 < c.1 && c.1 < d.1 then d :: insertMark c earlier else c :: d :: earlier

/-- A text with its marks in the order of their classes. -/
def inOrder (s : List Char) : List Classed :=
  (s.foldl (fun earlier c => insertMark (combiningClass c, c) earlier) []).reverse

/-! ### Composing -/

/-- No character held back keeps `c` from the base: there is none, or the last is a mark of a lower
class. -/
def reachesBase (held : List Classed) (c : Classed) : Bool :=
  match held with
  | [] => true
  | last :: _ => last.1 < c.1

/-- What follows a base composed with it where that can be; `held` are the marks in between, the
last first. -/
def composedFrom (base : Char) (held : List Classed) : List Classed → List Char
  | [] => base :: held.reverse.map Prod.snd
  | c :: s =>
    match if reachesBase held c then composite? base c.2 else none with
    | some whole => composedFrom whole held s
    | none =>
      if c.1 = 0 then base :: held.reverse.map Prod.snd ++ composedFrom c.2 [] s
      else composedFrom base (c :: held) s

/-- A text whose marks are in order, composed. -/
def composed : List Classed → List Char
  | [] => []
  | c :: s => if c.1 = 0 then composedFrom c.2 [] s else c.2 :: composed s

/-- The normal form of a text. -/
def normalForm (s : List Char) : List Char :=
  composed (inOrder (takenApart s))

end FrontDoor.Text
