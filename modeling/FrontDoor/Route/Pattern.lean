/-
Which paths a route accepts.

A path is cut at its slashes.  A tail pattern lists the segments the path has to end in, and
asks for one more piece in front of them, so that the first listed segment is preceded by a
slash and never only the end of a longer name.  The other kind of pattern is a fragment that
has to stand somewhere in the path.
-/
import FrontDoor.Text.Pieces
import FrontDoor.Text.Numeral

namespace FrontDoor.Route

/-- What one segment of a path may be. -/
inductive Segment
  /-- Exactly this text. -/
  | literal (text : String)
  /-- This many lowercase hexadecimal digits. -/
  | hex (length : Nat)
  /-- One or more ASCII digits. -/
  | digits
  deriving DecidableEq, Repr

/-- The piece of a path satisfies the segment. -/
def Segment.admits : Segment → List Char → Bool
  | .literal text, piece => piece == text.toList
  | .hex length, piece => piece.length == length && piece.all Text.isLowerHex
  | .digits, piece => !piece.isEmpty && piece.all Char.isDigit

/-- Every listed segment admits the piece at its place; the shorter list sets how far one looks. -/
def admitsEach (segments : List Segment) (parts : List (List Char)) : Bool :=
  (segments.zip parts).all fun (segment, piece) => segment.admits piece

/-- The path ends in a slash-separated run of pieces that the segments admit one by one. -/
def endsIn (segments : List Segment) (path : String) : Bool :=
  let parts := Text.pieces '/' path.toList
  segments.length < parts.length &&
    admitsEach segments (parts.drop (parts.length - segments.length))

/-- A condition on the path of a request. -/
inductive Pattern
  /-- The path ends in these segments. -/
  | tail (segments : List Segment)
  /-- The fragment stands somewhere in the path. -/
  | containing (fragment : String)
  deriving DecidableEq, Repr

/-- The path satisfies the pattern. -/
def Pattern.accepts : Pattern → String → Bool
  | .tail segments, path => endsIn segments path
  | .containing fragment, path => Text.occursIn fragment.toList path.toList

end FrontDoor.Route
