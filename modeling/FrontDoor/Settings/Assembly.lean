/-
From a file and a command line to settings.

What the command line gives takes the place of what the file gives, and only then are the
settings checked: a flag may hide what is wrong with a file, and a file does not excuse a flag.
-/
import FrontDoor.Disk.Error
import FrontDoor.Settings.Check
import FrontDoor.Settings.Document

namespace FrontDoor.Settings

/-- Why there are no settings to run on. -/
inductive Failure
  | unreadable (cause : Disk.Error)
  /-- The file is no TOML document, or a field has the wrong type. -/
  | malformed
  | refused (problems : List Problem)
  deriving DecidableEq, Repr

namespace Failure

/-- The failure in a message; what is malformed about a document is not said. -/
def message : Failure → String
  | .unreadable cause => "IO error: " ++ cause.message
  | .malformed => "Parse error: "
  | .refused problems =>
    "Validation failed: " ++ Text.joinWith ", " (problems.map Problem.message)

/-- The failure with its cause, as the program shows it when it gives up. -/
def debugText : Failure → String
  | .unreadable cause => "Io(" ++ cause.debugText ++ ")"
  | .malformed => "Parse("
  | .refused problems =>
    "Validation([" ++ Text.joinWith ", " (problems.map Problem.debugText) ++ "])"

end Failure

/-- What the command line can set. -/
structure Overrides where
  listenAddress? : Option String := none
  backend? : Option String := none
  deriving DecidableEq, Repr

/-- The settings with what the command line gives. -/
def Overrides.apply (o : Overrides) (s : Settings) : Settings :=
  { s with
    bindAddress := o.listenAddress?.getD s.bindAddress
    backendUrl := o.backend?.getD s.backendUrl }

/-- The settings in a file; `readText` is how files are read. -/
def load (readText : String → Except Disk.Error String) (path : String) :
    Except Failure Settings :=
  match readText path with
  | .error cause => .error (.unreadable cause)
  | .ok text =>
    match ofText? text with
    | some settings => .ok settings
    | none => .error .malformed

/-- The settings in a file, or the defaults without one. -/
def loadOrDefault (readText : String → Except Disk.Error String) :
    Option String → Except Failure Settings
  | some path => load readText path
  | none => .ok {}

/-- The settings if nothing is wrong with them. -/
def checked (s : Settings) : Except Failure Settings :=
  if s.problems.isEmpty then .ok s else .error (.refused s.problems)

/-- The settings to run on. -/
def prepare (readText : String → Except Disk.Error String) (path? : Option String)
    (overrides : Overrides) : Except Failure Settings := do
  checked (overrides.apply (← loadOrDefault readText path?))

end FrontDoor.Settings
