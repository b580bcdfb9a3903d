/-
The tables of a document, and what may be added to them.

A key with dots and a header both name a table by the path to it.  Tables missing on the way are
made, and of tables that share a header the last one is meant.  No entry is ever given twice: a
header opens a table that is new or was only passed so far, and a key with dots adds to tables
that keys with dots made, never to one with a header of its own.
-/
import FrontDoor.Toml.Value

namespace FrontDoor.Toml

/-- A key: the tables on the way and the name in the last of them. -/
structure Key where
  path : List String
  name : String
  deriving DecidableEq, Repr

namespace Key

/-- All parts of a key. -/
def parts (key : Key) : List String := key.path ++ [key.name]

end Key

namespace Entries

/-- The entries with another value under a key they have. -/
def replace (es : Entries) (name : String) (v : Value) : Entries :=
  es.map fun e => if e.1 = name then (name, v) else e

/-- The entries with a value under a new key. -/
def add? (es : Entries) (name : String) (v : Value) : Option Entries :=
  if (es.lookup name).isSome then none else some (es ++ [(name, v)])

/-- Changes the table at the end of a path that starts at a table of some origin.  `made` is the
origin of a table made on the way and `mayEnter` tells which tables may be entered. -/
def change? (made : Origin) (mayEnter : Origin → Bool)
    (act : Origin → Entries → Option Entries) :
    List String → Origin → Entries → Option Entries
  | [], origin, es => act origin es
  | name :: path, _, es =>
    match es.lookup name with
    | none =>
      (change? made mayEnter act path made []).map fun sub => es ++ [(name, .table made sub)]
    | some (.table origin sub) =>
      if mayEnter origin then
        (change? made mayEnter act path origin sub).map fun sub =>
          replace es name (.table origin sub)
      else none
    | some (.tables elements) => do
      let last ← change? made mayEnter act path .header (← elements.getLast?)
      return replace es name (.tables (elements.dropLast ++ [last]))
    | some _ => none

/-- Adds a value under a key to a table of some origin. -/
def addPair? (key : Key) (v : Value) : Origin → Entries → Option Entries :=
  change? .dotted (fun origin => origin = .passed || origin = .dotted)
    (fun origin es =>
      if key.path.isEmpty || origin = .dotted then es.add? key.name v else none)
    key.path

/-- Changes the table that a path from the document names. -/
def changeBelow? (act : Origin → Entries → Option Entries) (path : List String) (es : Entries) :
    Option Entries :=
  change? .passed (fun origin => origin ≠ .inline) act path .header es

/-- Opens a table of its own. -/
def openTable? (key : Key) (es : Entries) : Option Entries :=
  changeBelow? (fun _ es =>
    match es.lookup key.name with
    | none => some (es ++ [(key.name, .table .header [])])
    | some (.table .passed sub) => some (es.replace key.name (.table .header sub))
    | some _ => none) key.path es

/-- Opens one more table under a shared header. -/
def openElement? (key : Key) (es : Entries) : Option Entries :=
  changeBelow? (fun _ es =>
    match es.lookup key.name with
    | none => some (es ++ [(key.name, .tables [[]])])
    | some (.tables elements) => some (es.replace key.name (.tables (elements ++ [[]])))
    | some _ => none) key.path es

end Entries

end FrontDoor.Toml
