/-
Routes and the choice among them.

A route pairs a method and a path pattern with the stages that handle what it selects.  A table
holds routes in the order of their declaration, and the first one that accepts a request is the
route of that request.  The stages are a parameter: a table selects without looking at them.
-/
import FrontDoor.Http.Method
import FrontDoor.Route.Pattern

namespace FrontDoor

open Http (Method)

/-- A named method and path pattern with the stages behind it. -/
structure Route (σ : Type) where
  name : String
  method : Method
  pattern : Route.Pattern
  stages : List σ

namespace Route

/-- The method is the route's and its pattern accepts the path. -/
def accepts {σ : Type} (r : Route σ) (method : Method) (path : String) : Bool :=
  r.method == method && r.pattern.accepts path

/-- Routes in order of declaration. -/
structure Table (σ : Type) where
  routes : List (Route σ) := []

namespace Table

variable {σ : Type}

/-- The first route that accepts the method and path. -/
def select? (t : Table σ) (method : Method) (path : String) : Option (Route σ) :=
  t.routes.find? (·.accepts method path)

def size (t : Table σ) : Nat :=
  t.routes.length

def isEmpty (t : Table σ) : Bool :=
  t.routes.isEmpty

end Table

end Route

end FrontDoor
