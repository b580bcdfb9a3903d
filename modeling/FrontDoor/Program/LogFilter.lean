/-
Which log records are shown.

A filter is a list of rules between commas.  A rule names the start of a target, a field that a
record must have, and the least grave level shown; without a level all are.  A level alone is about
every target, and a rule that names a span or the value of a field says nothing about records.  Of
the rules that cover a record the most special one decides: the one with the longest target, then
one with a field; of two for the same records the later.  What no rule covers is not shown.
Without rules only errors are.

Blanks around a rule are not read, but its parts are cut from the text with its blanks, by counting
octets: blanks in front move every part forward.
-/
import FrontDoor.Journal
import FrontDoor.Program.Pattern
import FrontDoor.Text.Pieces

namespace FrontDoor.Program

/-- A rule of a filter. -/
structure LogRule where
  /-- How the targets start that it is about; it is about all without one. -/
  target? : Option String
  /-- The field of the records that it is about. -/
  field? : Option String := none
  /-- The highest rank it shows. -/
  limit : Nat
  /-- It is about spans. -/
  aboutSpans : Bool := false
  deriving DecidableEq, Repr

namespace LogRule

/-- What is wrong with the text of a rule. -/
inductive Problem
  | unsound
  | unknownLevel
  /-- A part begins or ends within a character, which ends the program. -/
  | torn
  deriving DecidableEq, Repr

def Problem.message : Problem → String
  | .unsound | .torn => "invalid filter directive"
  | .unknownLevel =>
    "error parsing level filter: expected one of \"off\", \"error\", \"warn\", \"info\", " ++
      "\"debug\", \"trace\", or a number 0-5"

/-! ### Parts -/

/-- How many octets a text has. -/
def octetCount (s : List Char) : Nat :=
  s.foldl (fun n c => n + c.utf8Size) 0

/-- What a text has from an octet on. -/
def fromOctet? : Nat → List Char → Except Problem (List Char)
  | 0, s => .ok s
  | _, [] => .ok []
  | n, c :: s => if c.utf8Size ≤ n then fromOctet? (n - c.utf8Size) s else .error .torn

/-- The first octets of a text. -/
def octets? : Nat → List Char → Except Problem (List Char)
  | 0, _ => .ok []
  | _, [] => .ok []
  | n, c :: s => do
    if n < c.utf8Size then .error .torn
    else return c :: (← octets? (n - c.utf8Size) s)

/-- The part of a text that has so many octets from an octet on. -/
def part? (whole : List Char) (first count : Nat) : Except Problem (List Char) := do
  octets? count (← fromOctet? first whole)

/-! ### Levels -/

/-- The rank that a word or digit for a level allows. -/
def limit? (text : List Char) : Option Nat :=
  match Text.numeral? Text.wordBound (if text.head? = some '+' then text.tail else text) with
  | some n => if n < 6 then some n else none
  | none =>
    ["off", "error", "warn", "info", "debug", "trace"].findIdx?
      (·.toList == text.map Char.toLower)

/-- The rank that what comes after an equals sign allows; without a level, all are. -/
def limitAfter? (text : List Char) : Except Problem Nat :=
  if text.isEmpty then .ok 5
  else match limit? text with
    | some limit => .ok limit
    | none => .error .unknownLevel

/-- The rank that the end of a rule allows, which begins at an octet. -/
def limitAtEnd? (whole : List Char) (first : Nat) : List Char → Except Problem Nat
  | [] => .ok 5
  | '=' :: _ => do limitAfter? (← fromOctet? (first + 1) whole)
  | _ => .error .unsound

/-! ### Fields -/

/-- The text is a number, which may have a fraction and an exponent, or a word for one without bound
or for none. -/
def isAmount (s : List Char) : Bool :=
  let digits := s.takeWhile Char.isDigit
  let afterDigits := s.dropWhile Char.isDigit
  let fraction := if afterDigits.head? = some '.' then afterDigits.tail.takeWhile Char.isDigit else []
  let afterFraction :=
    if afterDigits.head? = some '.' then afterDigits.tail.dropWhile Char.isDigit else afterDigits
  let isExponent : List Char → Bool
    | [] => true
    | e :: s =>
      let s := if s.head? = some '+' || s.head? = some '-' then s.tail else s
      e.toLower = 'e' && !s.isEmpty && s.all Char.isDigit
  (!(digits ++ fraction).isEmpty && isExponent afterFraction) ||
    ["inf", "infinity", "nan"].contains (String.ofList (s.map Char.toLower))

/-- The value of a field is a number or a sound pattern. -/
def isValue (s : List Char) : Bool :=
  Pattern.isSound s || (s.head? = some '+' && isAmount s.tail)

/-- The name of a field, and the value that is asked for. -/
def wanted? (s : List Char) : Except Problem (String × Option String) :=
  match Text.pieces '=' s with
  | name :: value :: _ =>
    if isValue value then .ok (String.ofList name, some (String.ofList value)) else .error .unsound
  | _ => .ok (String.ofList s, none)

/-! ### Rules -/

/-- The start of a target. -/
def startsTarget (c : Char) : Bool :=
  c = '-' || c = ':' || c = '_' || Text.isAlphanumeric c

/-- The rule from its bracket on, behind which `s` begins at an octet. -/
def bracket? (whole : List Char) (target? : Option String) (first : Nat) (s : List Char) :
    Except Problem LogRule :=
  let span := s.takeWhile fun c => c != ']' && c != '{'
  let afterSpan := first + octetCount span
  match s.dropWhile fun c => c != ']' && c != '{' with
  | ']' :: rest => do
    let _ ← part? whole first (octetCount span)
    return { target?, limit := ← limitAtEnd? whole (afterSpan + 1) rest, aboutSpans := true }
  | '{' :: s =>
    let inner := s.takeWhile (· != '}')
    let afterField := afterSpan + 1 + octetCount inner
    match s.dropWhile (· != '}') with
    | _ :: rest => do
      let _ ← part? whole first (octetCount span)
      if inner.isEmpty then .error .unsound
      let (name, value?) ← wanted? (← part? whole (afterSpan + 1) (octetCount inner))
      match rest with
      | ']' :: rest =>
        return {
          target?, field? := some name, limit := ← limitAtEnd? whole (afterField + 2) rest
          aboutSpans := !span.isEmpty || value?.isSome }
      | _ => .error .unsound
    | [] => do
      let _ ← part? whole first (octetCount span)
      .error .unsound
  | _ => .error .unsound

/-- The rule of a single word: a level, or else a target. -/
def ofWord (s : List Char) : LogRule :=
  match limit? s with
  | some limit => { target? := none, limit }
  | none => { target? := some (String.ofList s), limit := 5 }

/-- A text without the blanks around it. -/
def trimmed (s : List Char) : List Char :=
  ((s.dropWhile Text.isBlank).reverse.dropWhile Text.isBlank).reverse

/-- The rule that a text spells. -/
def ofText? (whole : List Char) : Except Problem LogRule :=
  match trimmed whole with
  | [] => .error .unsound
  | c :: s =>
    let isInTarget (c : Char) : Bool := c != '=' && c != '['
    let target := (c :: s).takeWhile isInTarget
    if c = '[' then bracket? whole none 1 s
    else if !startsTarget c then .error .unsound
    else match (c :: s).dropWhile isInTarget with
      | [] => .ok (ofWord whole)
      | '=' :: rest => do
        let named ← part? whole 0 (octetCount target)
        let limit ← limitAtEnd? whole (octetCount target) ('=' :: rest)
        return { target? := some (String.ofList named), limit }
      | _ :: rest => do
        let named ← part? whole 0 (octetCount target)
        bracket? whole (some (String.ofList named)) (octetCount target + 1) rest

/-! ### Which rule decides -/

/-- The rule is about a record of the target with these fields. -/
def covers (r : LogRule) (target : String) (fields : List String) : Bool :=
  !r.aboutSpans && ((r.target?.map (·.toList)).getD []).isPrefixOf target.toList &&
    (r.field?.map fields.contains).getD true

/-- How special the target of a rule is. -/
def width (r : LogRule) : Nat :=
  (r.target?.map fun t => t.utf8ByteSize + 1).getD 0

/-- Of two rules that cover a record, the second decides if it comes later. -/
def yieldsTo (r later : LogRule) : Bool :=
  r.width < later.width || (r.width = later.width &&
    match r.field?, later.field? with
    | none, _ => true
    | some _, none => false
    | some field, some laterField => field ≤ laterField)

end LogRule

/-- The rules of a filter. -/
abbrev LogFilter := List LogRule

namespace LogFilter

/-- The texts of the rules. -/
def parts (text : String) : List (List Char) :=
  (Text.pieces ',' text.toList).filter (!·.isEmpty)

/-- Only errors, when there are no rules. -/
def orErrors (rules : List LogRule) : LogFilter :=
  if rules.isEmpty then [{ target? := none, limit := 1 }] else rules

/-- The filter that a text spells, if all its rules are sound. -/
def ofText? (text : String) : Except LogRule.Problem LogFilter :=
  ((parts text).mapM LogRule.ofText?).map orErrors

/-- The complaint that a text spells no rule, on a line of its own. -/
def complaint (text : List Char) (problem : LogRule.Problem) : String :=
  "ignoring \x60" ++ String.ofList text ++ "\x60: " ++ problem.message

/-- The sound rules among texts and a complaint about each other text, unless one is torn. -/
def soundRules? : List (List Char) → Option (List LogRule × List String)
  | [] => some ([], [])
  | text :: others => do
    let (rules, complaints) ← soundRules? others
    match LogRule.ofText? text with
    | .ok rule => some (rule :: rules, complaints)
    | .error .torn => none
    | .error problem => some (rules, complaint text problem :: complaints)

/-- The filter of the sound rules of a text, with complaints about the others, unless one is
torn. -/
def ofSoundParts? (text : String) : Option (LogFilter × List String) :=
  (soundRules? (parts text)).map fun (rules, complaints) => (orErrors rules, complaints)

/-- The text of the filter that shows the gateway and its HTTP layers from a level on. -/
def defaultText (level : String) : String :=
  "git_gateway=" ++ level ++ ",tower_http=" ++ level

/-- The filter of the environment if there is a sound one, else that of the level set, with
complaints; none if a rule is torn. -/
def choose? (environment? : Option String) (level : String) : Option (LogFilter × List String) :=
  match environment?.map ofText? with
  | some (.ok filter) => some (filter, [])
  | some (.error .torn) => none
  | _ => ofSoundParts? (defaultText level)

/-- The rule that decides about a record of the target with these fields. -/
def deciding? (filter : LogFilter) (target : String) (fields : List String) : Option LogRule :=
  filter.foldl (fun best? r =>
    if !r.covers target fields then best?
    else match best? with
      | some best => if best.yieldsTo r then some r else some best
      | none => some r) none

/-- Records of the target and the level with these fields are shown. -/
def shows (filter : LogFilter) (target : String) (level : Level) (fields : List String) : Bool :=
  match filter.deciding? target fields with
  | some r => level.rank ≤ r.limit
  | none => false

end LogFilter

end FrontDoor.Program
