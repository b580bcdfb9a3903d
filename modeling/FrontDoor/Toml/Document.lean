/-
Documents: lines of keys with values, and headers that name the table the next lines belong to.

A value is a string, a number, a point in time, a truth value, or an array or inline table of
values.  Arrays may span lines and end with a comma; inline tables may do neither.  Nesting is
bounded, so no document can exhaust a reader that recurses.  Reading a value takes fuel for each
value and each step from one to the next, of which a text has at most two for a character.
-/
import FrontDoor.Toml.Scalar

namespace FrontDoor.Toml

/-! ### Values -/

mutual

/-- The value in front, inside which `depth` more arrays and inline tables may open. -/
def value? : Nat → Nat → List Char → Option (Value × List Char)
  | 0, _, _ => none
  | fuel + 1, depth, s =>
    match s with
    | [] => none
    | c :: rest =>
      if c == '"' || c == '\'' then (string? fuel s).map fun (text, s) => (.string text, s)
      else if c == '[' then
        match depth with
        | 0 => none
        | depth + 1 => (elements? fuel depth rest).map fun (vs, s) => (.array vs, s)
      else if c == '\x7b' then
        match depth with
        | 0 => none
        | depth + 1 =>
          match skipBlanks rest with
          | '\x7d' :: s => some (.table .inline [], s)
          | s => (pairs? fuel depth [] s).map fun (es, s) => (.table .inline es, s)
      else if c == 't' then (after? "true" s).map fun s => (.boolean true, s)
      else if c == 'f' then (after? "false" s).map fun s => (.boolean false, s)
      else numberOrTime? s

/-- The elements of an array up to its end. -/
def elements? : Nat → Nat → List Char → Option (List Value × List Char)
  | 0, _, _ => none
  | fuel + 1, depth, s =>
    match skipLines s with
    | ']' :: s => some ([], s)
    | s => do
      let (v, s) ← value? fuel depth s
      match skipLines s with
      | ']' :: s => return ([v], s)
      | ',' :: s =>
        let (vs, s) ← elements? fuel depth s
        return (v :: vs, s)
      | _ => none

/-- The pairs of an inline table up to its end, added to those it has. -/
def pairs? : Nat → Nat → Entries → List Char → Option (Entries × List Char)
  | 0, _, _, _ => none
  | fuel + 1, depth, es, s => do
    let (key, s) ← key? fuel s
    let (v, s) ← value? fuel depth (skipBlanks (← after? "=" s))
    let es ← Entries.addPair? key v .inline es
    match skipBlanks s with
    | '\x7d' :: s => return (es, s)
    | ',' :: s => pairs? fuel depth es s
    | _ => none

end

/-- The pair of a key and its value in front. -/
def pair? (fuel : Nat) (s : List Char) : Option (Key × Value × List Char) := do
  let (key, s) ← key? fuel s
  let (v, s) ← value? fuel (maxDepth - 1) (skipBlanks (← after? "=" s))
  return (key, v, s)

/-! ### Lines -/

/-- The tables of the lines that follow, at most `n` of them, added to `root`; pairs belong to
the table at `current`. -/
def lines? (fuel : Nat) : Nat → List String → Entries → List Char → Option Entries
  | 0, _, _, _ => none
  | n + 1, current, root, s =>
    match skipBlanks s with
    | [] => some root
    | '[' :: '[' :: s => do
      let (key, s) ← key? fuel s
      let s ← restOfLine? (← after? "]]" s)
      lines? fuel n key.parts (← root.openElement? key) s
    | '[' :: s => do
      let (key, s) ← key? fuel s
      let s ← restOfLine? (← after? "]" s)
      lines? fuel n key.parts (← root.openTable? key) s
    | c :: s =>
      if c == '#' || c == '\n' || c == '\r' then do
        lines? fuel n current root (← restOfLine? (c :: s))
      else do
        let (key, v, s) ← pair? fuel (c :: s)
        let s ← restOfLine? s
        lines? fuel n current (← root.changeBelow? (Entries.addPair? key v) current) s

/-- The tables of a document; a byte order mark may stand in front. -/
def document? (text : String) : Option Entries :=
  let s := match text.toList with
    | '\ufeff' :: s => s
    | s => s
  lines? (2 * s.length + 2) (s.length + 1) [] [] s

end FrontDoor.Toml
