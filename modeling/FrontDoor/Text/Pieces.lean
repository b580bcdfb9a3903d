/-
Cutting a text at a separator, and looking for a text inside another.

`pieces sep s` has one more piece than `s` has separators, so it is never empty; joining the
pieces with the separator between them gives `s` back.  `occursIn p s` says that `p` stands
somewhere in `s` without a gap.
-/
namespace FrontDoor.Text

/-- The first piece of a text and the pieces after it. -/
def cut (sep : Char) : List Char → List Char × List (List Char)
  | [] => ([], [])
  | c :: cs =>
    let (first, others) := cut sep cs
    if c = sep then ([], first :: others) else (c :: first, others)

/-- The pieces of a text between its separators. -/
def pieces (sep : Char) (s : List Char) : List (List Char) :=
  (cut sep s).1 :: (cut sep s).2

/-- `p` stands somewhere in the text. -/
def occursIn (p : List Char) : List Char → Bool
  | [] => p.isEmpty
  | c :: cs => p.isPrefixOf (c :: cs) || occursIn p cs

/-- The texts in order with `sep` between neighbours. -/
def joinWith (sep : String) : List String → String
  | [] => ""
  | [s] => s
  | s :: t :: rest => s ++ sep ++ joinWith sep (t :: rest)

end FrontDoor.Text
