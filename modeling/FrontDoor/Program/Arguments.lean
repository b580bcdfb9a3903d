/-
The command line.

Three options take a value, in the same word after an equals sign or in the next one; help and
the version are told at once, whatever follows.  An option given twice, a value that is missing
and a word that is no option make the line unusable, as does a file without a name.
-/
import FrontDoor.Settings.Assembly

namespace FrontDoor.Program

/-- What the command line gives. -/
structure Arguments where
  /-- The file with the settings. -/
  config? : Option String := none
  overrides : Settings.Overrides := {}
  deriving DecidableEq, Repr

/-- An option that takes a value. -/
inductive Parameter
  | config
  | listenAddress
  | backend
  deriving DecidableEq, Repr

/-- What a word of the command line is. -/
inductive Word
  | parameter (p : Parameter) (value? : Option String)
  | help
  | version
  /-- No options follow. -/
  | rest
  | unknown
  deriving DecidableEq, Repr

namespace Word

/-- A word after two dashes, cut at the first equals sign. -/
def ofLong (name : String) (value? : Option String) : Word :=
  match name, value? with
  | "config", value? => parameter .config value?
  | "listen-addr", value? => parameter .listenAddress value?
  | "auth-backend", value? => parameter .backend value?
  | "help", none => help
  | "version", none => version
  | "", none => rest
  | _, _ => unknown

/-- A word after one dash: the letter and what follows it. -/
def ofShort (letter : Char) (s : List Char) : Word :=
  if letter = 'h' then help
  else if letter = 'V' then version
  else if letter = 'c' then
    match s with
    | [] => parameter .config none
    | '=' :: value => parameter .config (some (String.ofList value))
    | value => parameter .config (some (String.ofList value))
  else unknown

/-- What a word is. -/
def ofText (text : String) : Word :=
  match text.toList with
  | '-' :: '-' :: s =>
    let name := String.ofList (s.takeWhile (· != '='))
    match s.dropWhile (· != '=') with
    | _ :: value => ofLong name (some (String.ofList value))
    | [] => ofLong name none
  | '-' :: letter :: s => ofShort letter s
  | _ => unknown

/-- The word cannot be the value of the option before it. -/
def isOption (text : String) : Bool :=
  match text.toList with
  | '-' :: _ :: _ => true
  | _ => false

end Word

namespace Arguments

/-- The arguments with one more option, unless it is there already. -/
def give? (a : Arguments) (value : String) : Parameter → Option Arguments
  | .config =>
    if a.config?.isSome || value.isEmpty then none else some { a with config? := some value }
  | .listenAddress =>
    if a.overrides.listenAddress?.isSome then none
    else some { a with overrides := { a.overrides with listenAddress? := some value } }
  | .backend =>
    if a.overrides.backend?.isSome then none
    else some { a with overrides := { a.overrides with backend? := some value } }

end Arguments

/-- What the command line asks for. -/
inductive Command
  | run (arguments : Arguments)
  | help
  | version
  | misused
  deriving DecidableEq, Repr

namespace Command

/-- What the words ask for, after those that gave `a`. -/
def read (a : Arguments) : List String → Command
  | [] => .run a
  | word :: words =>
    match Word.ofText word with
    | .help => .help
    | .version => .version
    | .unknown => .misused
    | .rest => if words.isEmpty then .run a else .misused
    | .parameter p (some value) =>
      match a.give? value p with
      | some a => read a words
      | none => .misused
    | .parameter p none =>
      match words with
      | [] => .misused
      | value :: words =>
        if Word.isOption value then .misused
        else match a.give? value p with
          | some a => read a words
          | none => .misused

/-- What the command line asks for. -/
def ofWords (words : List String) : Command := read {} words

end Command

end FrontDoor.Program
