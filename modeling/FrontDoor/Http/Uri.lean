/-
Request URIs.

A URI is either complete (scheme, authority, path, query), or a path with a query, or an
authority alone.  Path and query are kept as they were written; only the two common schemes are
brought to lower case, and a fragment is dropped.  `Uri.text` writes a URI down again and
`Uri.target` is what a request for it would name: its path and query.
-/
import FrontDoor.Text.Numeral

namespace FrontDoor.Http

/-- A parsed request URI. -/
structure Uri where
  scheme? : Option String := none
  authority? : Option String := none
  /-- The path as written, empty when there is none. -/
  path : String := ""
  /-- What stands after the question mark, if there is one. -/
  query? : Option String := none
  deriving DecidableEq, Repr, Inhabited

namespace Uri

/-- The query with its question mark. -/
def queryText (u : Uri) : String :=
  match u.query? with
  | none => ""
  | some q => "?" ++ q

/-- The path, a slash standing for the empty path of a complete URI. -/
def shownPath (u : Uri) : String :=
  if u.path.isEmpty && u.scheme?.isSome then "/" else u.path

/-- The URI written down. -/
def text (u : Uri) : String :=
  (match u.scheme? with
    | none => ""
    | some s => s ++ "://") ++
  (u.authority?.getD "") ++ u.shownPath ++ u.queryText

/-- Path and query as written, a slash when both are missing. -/
def target (u : Uri) : String :=
  let written := u.path ++ u.queryText
  if written.isEmpty then "/" else written

end Uri

namespace Authority

/-- What stands after the last `sep`, the whole text when there is none. -/
def afterLast (sep : Char) (s : List Char) : List Char :=
  (s.reverse.takeWhile (· != sep)).reverse

/-- The host of an authority: without user information and without port, brackets kept. -/
def host (authority : String) : String :=
  match afterLast '@' authority.toList with
  | '[' :: rest => String.ofList ('[' :: rest.takeWhile (· != ']') ++ [']'])
  | rest => String.ofList (rest.takeWhile (· != ':'))

/-- The port of an authority, when what follows its last colon is a 16-bit number. -/
def port? (authority : String) : Option Nat :=
  if authority.toList.contains ':' then
    Text.signedNumeral? 65536 (afterLast ':' authority.toList)
  else none

end Authority

end FrontDoor.Http
