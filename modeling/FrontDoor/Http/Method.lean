/-
Request methods.

A method is a case-sensitive token, so `get` is a method of its own and not `GET`.  Any token
is a method; the named ones are those the Git routes ask for.
-/
namespace FrontDoor.Http

/-- A request method. -/
structure Method where
  /-- The token that stands in the request line. -/
  token : String
  deriving DecidableEq, Repr, Inhabited

namespace Method

def get : Method := ⟨"GET"⟩
def head : Method := ⟨"HEAD"⟩
def post : Method := ⟨"POST"⟩
def put : Method := ⟨"PUT"⟩
def delete : Method := ⟨"DELETE"⟩
def connect : Method := ⟨"CONNECT"⟩

/-- The characters a token is made of. -/
def isTokenChar (c : Char) : Bool :=
  c.isAlphanum || "!#$%&'*+-.^_|~\x60".toList.contains c

/-- The method a text names: any non-empty run of token characters. -/
def ofText? (s : String) : Option Method :=
  if !s.isEmpty && s.toList.all isTokenChar then some ⟨s⟩ else none

end Method

end FrontDoor.Http
