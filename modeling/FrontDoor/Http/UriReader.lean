/-
Reading a URI from text.

Scheme, authority, path and query are read one after the other, and the first fault met is the
one reported.  The boundaries are fixed by three characters: a slash, a question mark or a hash
ends the authority, a question mark or a hash ends the path, and a hash ends the query.  So each
part is the longest run without its terminators, and all that is checked of a part is the run
itself.
-/
import FrontDoor.Http.Uri

namespace FrontDoor.Http.Uri

/-- Why a text is no URI. -/
inductive Problem
  | tooLong
  | empty
  | schemeTooLong
  | invalidAuthority
  | invalidCharacter
  | invalidFormat
  deriving DecidableEq, Repr

def Problem.message : Problem → String
  | .tooLong => "uri too long"
  | .empty => "empty string"
  | .schemeTooLong => "scheme too long"
  | .invalidAuthority => "invalid authority"
  | .invalidCharacter => "invalid uri character"
  | .invalidFormat => "invalid format"

/-- The greatest number of octets in a URI. -/
def maxSize : Nat := 65534

/-- The greatest number of characters in a scheme. -/
def maxSchemeLength : Nat := 64

/-! ### Scheme -/

/-- The characters of a scheme. -/
def isSchemeChar (c : Char) : Bool :=
  c.isAlphanum || c == '+' || c == '-' || c == '.' || c == '~'

/-- What follows `start`, which is in lower case, when the text begins with it in any case. -/
def afterIgnoringCase? : List Char → List Char → Option (List Char)
  | [], rest => some rest
  | _ :: _, [] => none
  | a :: start, c :: rest => if c.toLower == a then afterIgnoringCase? start rest else none

/-- A scheme other than the common two, and what follows its `://`. -/
def otherScheme (s : List Char) : Except Problem (Option (String × List Char)) :=
  match s.dropWhile isSchemeChar with
  | ':' :: '/' :: '/' :: rest =>
    let name := s.takeWhile isSchemeChar
    if s.length ≤ 3 then .ok none
    else if name.length > maxSchemeLength then .error .schemeTooLong
    else .ok (some (String.ofList name, rest))
  | _ => .ok none

/-- The scheme in front of the text and what follows its `://`, if there is one. -/
def scheme (s : List Char) : Except Problem (Option (String × List Char)) :=
  match afterIgnoringCase? "http://".toList s with
  | some rest => .ok (some ("http", rest))
  | none =>
    match afterIgnoringCase? "https://".toList s with
    | some rest => .ok (some ("https", rest))
    | none => otherScheme s

/-! ### Authority -/

/-- A slash, question mark or hash ends the authority. -/
def endsAuthority (c : Char) : Bool :=
  c == '/' || c == '?' || c == '#'

/-- The characters an authority may hold besides the percent sign. -/
def isAuthorityChar (c : Char) : Bool :=
  c.isAlphanum || "!$&'()*+,.:;=@_~[]-".toList.contains c

/-- What has been seen of an authority, read from left to right. -/
structure AuthorityScan where
  /-- Colons since the last `@` or `]`. -/
  colons : Nat := 0
  opened : Bool := false
  closed : Bool := false
  /-- A percent sign since the last `@` or `]`. -/
  percent : Bool := false
  /-- The character read last is an `@`. -/
  atSign : Bool := false

/-- One more character of the authority. -/
def AuthorityScan.step (st : AuthorityScan) (c : Char) : Except Problem AuthorityScan :=
  if c = ':' then
    if st.colons ≥ 8 then .error .invalidAuthority
    else .ok { st with colons := st.colons + 1, atSign := false }
  else if c = '[' then
    if st.percent || st.opened then .error .invalidAuthority
    else .ok { st with opened := true, atSign := false }
  else if c = ']' then
    if !st.opened || st.closed then .error .invalidAuthority
    else .ok { st with closed := true, colons := 0, percent := false, atSign := false }
  else if c = '@' then .ok { st with colons := 0, percent := false, atSign := true }
  else if c = '%' then .ok { st with percent := true, atSign := false }
  else if isAuthorityChar c then .ok { st with atSign := false }
  else .error .invalidCharacter

/-- The rest of the authority, and then its end. -/
def AuthorityScan.finish (st : AuthorityScan) : List Char → Except Problem Unit
  | [] =>
    if st.opened != st.closed || st.colons > 1 || st.atSign || st.percent then
      .error .invalidAuthority
    else .ok ()
  | c :: rest =>
    match st.step c with
    | .ok st' => st'.finish rest
    | .error e => .error e

/-- The run is an authority: at most one open and one closed bracket, at most one colon after
them, no percent sign in the host, something after an `@`. -/
def checkAuthority (authority : List Char) : Except Problem Unit :=
  ({} : AuthorityScan).finish authority

/-! ### Path and query -/

/-- The code points with a class of their own in paths and queries, and all beyond ASCII. -/
def isPathChar (c : Char) : Bool :=
  let n := c.toNat
  n == 0x21 || n == 0x22 || (0x24 ≤ n && n ≤ 0x3B) || n == 0x3D || (0x40 ≤ n && n ≤ 0x5F) ||
    (0x61 ≤ n && n ≤ 0x7E) || 0x80 ≤ n

def isQueryChar (c : Char) : Bool :=
  let n := c.toNat
  n == 0x21 || (0x24 ≤ n && n ≤ 0x3B) || n == 0x3D || (0x3F ≤ n && n ≤ 0x7E) || 0x80 ≤ n

/-- A question mark or hash ends the path. -/
def endsPath (c : Char) : Bool :=
  c == '?' || c == '#'

/-- The query in what follows the path, if that is a question mark and not a hash. -/
def query (s : List Char) : Except Problem (Option String) :=
  match s with
  | '?' :: rest =>
    let q := rest.takeWhile (· != '#')
    if q.all isQueryChar then .ok (some (String.ofList q)) else .error .invalidCharacter
  | _ => .ok none

/-- Path and query, of which the text consists up to a fragment. -/
def pathAndQuery (s : List Char) : Except Problem (String × Option String) :=
  let path := s.takeWhile (!endsPath ·)
  if path.all isPathChar then
    (query (s.dropWhile (!endsPath ·))).map fun q => (String.ofList path, q)
  else .error .invalidCharacter

/-! ### The whole -/

/-- An authority and nothing else; `extra` is the fault when something follows it. -/
def authorityOnly (extra : Problem) (s : List Char) : Except Problem Uri := do
  checkAuthority (s.takeWhile (!endsAuthority ·))
  if s.any endsAuthority then .error extra
  else .ok { authority? := some (String.ofList s) }

/-- Authority, path and query, after a scheme. -/
def afterScheme (name : String) (s : List Char) : Except Problem Uri := do
  if s.isEmpty then .error .empty
  let authority := s.takeWhile (!endsAuthority ·)
  checkAuthority authority
  if authority.isEmpty then .error .invalidFormat
  let (path, query?) ← pathAndQuery (s.dropWhile (!endsAuthority ·))
  .ok { scheme? := some name, authority? := some (String.ofList authority), path, query? }

/-- The URI that a text of more than one character spells, not beginning with a slash. -/
def absolute (s : List Char) : Except Problem Uri := do
  match ← scheme s with
  | some (name, rest) => afterScheme name rest
  | none => authorityOnly .invalidFormat s

/-- The URI a text spells. -/
def ofText (text : String) : Except Problem Uri :=
  if text.utf8ByteSize > maxSize then .error .tooLong
  else match text.toList with
    | [] => .error .empty
    | ['*'] => .ok { path := "*" }
    | '/' :: rest => (pathAndQuery ('/' :: rest)).map fun (path, query?) => { path, query? }
    | [c] => authorityOnly .invalidCharacter [c]
    | s => absolute s

end FrontDoor.Http.Uri
