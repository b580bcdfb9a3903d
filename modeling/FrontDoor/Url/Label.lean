/-
Labels of a name, which stand between its dots.

A label that begins with `xn--` spells another one.  No label begins with a combining mark or has a
joiner where nothing is joined, and when a name has letters that run from right to left, each of
its labels runs in one direction.
-/
import FrontDoor.Text.Direction
import FrontDoor.Text.Joining
import FrontDoor.Text.NormalForm
import FrontDoor.Url.Folding
import FrontDoor.Url.Punycode

namespace FrontDoor.Url

/-- The characters of a label. -/
abbrev Label := List Char

namespace Label

/-! ### Spelling -/

/-- The most characters of a label that is not in ASCII. -/
def longest : Nat := 1000

/-- The most characters after `xn--`. -/
def longestCoded : Nat := 2000

/-- The label is in ASCII. -/
def isAscii (label : Label) : Bool :=
  label.all (·.toNat < 128)

/-- Folding leaves the label as it is. -/
def isFolded (label : Label) : Bool :=
  label.all (fun c => Folding.read? c = some [c]) && Text.normalForm label = label

/-- The label that the characters after `xn--` spell. -/
def coded? (code : List Char) : Option Label := do
  if code.isEmpty || code.getLast? = some '-' || longestCoded < code.length then none
  let label ← Punycode.decode? code
  if isFolded label then some label else none

/-- The label that folded characters stand for. -/
def spelled? (s : List Char) : Option Label :=
  if "xn--".toList.isPrefixOf s then coded? (s.drop 4) else some s

/-! ### Joiners -/

/-- The nearest character that is not joined across joins as asked. -/
def meets (joins : Text.Joining → Bool) : List Char → Bool
  | [] => false
  | c :: s => if Text.joining c = .across then meets joins s else joins (Text.joining c)

/-- A joiner may stand between what comes before, the last first, and what comes after: after a mark
that silences a vowel, or as a separator of letters that would join. -/
def mayJoin (joiner : Char) (before after : List Char) : Bool :=
  before.head?.map Text.combiningClass = some Text.viramaClass ||
    (joiner = '\u200c' && meets (fun j => j = .after || j = .both) before &&
      meets (fun j => j = .before || j = .both) after)

/-- All joiners of a label may stand where they are; `before` is what comes before, the last
first. -/
def joinersFit (before : List Char) : List Char → Bool
  | [] => true
  | c :: after =>
    (!Folding.isJoiner c || mayJoin c before after) && joinersFit (c :: before) after

/-! ### Direction -/

/-- The label has a character that runs from right to left. -/
def hasRightToLeft (label : Label) : Bool :=
  label.any fun c => 0x590 ≤ c.toNat &&
    (Text.direction c = .rightToLeft || Text.direction c = .arabicNumber)

/-- What a label that runs from left to right may hold, and what may come last in it. -/
def runsRight (rest : List Text.Direction) : Bool :=
  rest.all (fun d => d != .rightToLeft && d != .arabicNumber) &&
    match rest.getLast? with
    | some last => last = .leftToRight || last = .europeanNumber
    | none => true

/-- What a label that runs from right to left may hold, and what may come last in it. -/
def runsLeft (rest : List Text.Direction) : Bool :=
  rest.all (· != .leftToRight) &&
    !(rest.contains .europeanNumber && rest.contains .arabicNumber) &&
    match rest.getLast? with
    | some last => last != .neutral
    | none => true

/-- The label runs in one direction, which its first character has; marks at its end do not
count. -/
def runsOneWay (label : Label) : Bool :=
  match label.map Text.direction with
  | [] => true
  | first :: others =>
    let rest := (others.reverse.dropWhile (· = .nonspacing)).reverse
    match first with
    | .leftToRight => runsRight rest
    | .rightToLeft => runsLeft rest
    | _ => false

/-- If a label runs from right to left anywhere, each runs in one direction. -/
def runTogether (labels : List Label) : Bool :=
  !labels.any hasRightToLeft || labels.all runsOneWay

/-! ### Rules of a label -/

/-- Characters of ASCII that no name has. -/
def isDenied (c : Char) : Bool :=
  c ≤ ' ' || c = '\x7f' || "%#/:<>?@[\\]^|".toList.contains c

/-- A name may have the label. -/
def isSound (label : Label) : Bool :=
  !label.any isDenied && (isAscii label ||
    (label.length ≤ longest && !(label.head?.map Text.isMark).getD false && joinersFit [] label))

/-- The label that folded characters stand for, if a name may have it. -/
def ofFolded? (s : List Char) : Option Label := do
  let label ← spelled? s
  if isSound label then some label else none

end Label

end FrontDoor.Url
