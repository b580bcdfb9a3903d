/-
Tail patterns as text.

A template such as `/gitlab-lfs/objects/{hex64}/{digits}` lists segments between slashes.
`Template.parse` reads every text as a template, since a piece that is no token is a literal,
and `Template.render` writes a list of segments down again.  Slashes in front mean nothing.
-/
import FrontDoor.Route.Pattern

namespace FrontDoor.Route.Template

/-- The token for a run of digits. -/
def digitsToken : String := "\x7bdigits\x7d"

/-- The length in a token for that many hexadecimal digits, if the piece is such a token. -/
def hexLength? (piece : List Char) : Option Nat := do
  let rest ← "\x7bhex".toList.isPrefixOf? piece
  let length ← ['}'].isSuffixOf? rest
  Text.signedNumeral? Text.wordBound length

/-- The segment a piece of a template stands for. -/
def segment (piece : List Char) : Segment :=
  if piece = digitsToken.toList then .digits
  else match hexLength? piece with
    | some length => .hex length
    | none => .literal (String.ofList piece)

/-- The segments a template lists. -/
def parse (template : String) : List Segment :=
  (Text.pieces '/' (template.toList.dropWhile (· == '/'))).map segment

/-- How a segment is written in a template. -/
def segmentText : Segment → String
  | .literal text => text
  | .hex length => "\x7bhex" ++ toString length ++ "\x7d"
  | .digits => digitsToken

/-- The template that lists the segments, each after a slash. -/
def render (segments : List Segment) : String :=
  String.join (segments.map fun s => "/" ++ segmentText s)

end FrontDoor.Route.Template
