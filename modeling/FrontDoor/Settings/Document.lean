/-
Settings in a TOML document.

A document has up to three sections.  A section is a table of fields by name, or an array of
fields in their order whose tail may be missing; what it leaves out keeps its default, and what
nobody knows is passed over.  A field of the wrong type spoils the document.
-/
import FrontDoor.Settings.Basic
import FrontDoor.Toml.Document

namespace FrontDoor.Settings

open Toml (Value)

/-- A field of a section: how a value changes the settings, if it may stand there. -/
abbrev Field := Value → Settings → Option Settings

namespace Field

/-- A field that holds a text. -/
def text (set : String → Settings → Settings) : Field
  | .string s, settings => some (set s settings)
  | _, _ => none

/-- A field that holds a number that is not negative. -/
def number (set : Nat → Settings → Settings) : Field
  | .integer (.ofNat n), settings => some (set n settings)
  | _, _ => none

/-- A field that holds a truth value. -/
def truth (set : Bool → Settings → Settings) : Field
  | .boolean b, settings => some (set b settings)
  | _, _ => none

end Field

/-- A section: its fields in order, by name. -/
abbrev Section := List (String × Field)

def listenerSection : Section :=
  [("bind_address", .text fun s settings => { settings with bindAddress := s })]

def backendSection : Section :=
  [("url", .text fun s settings => { settings with backendUrl := s }),
    ("timeout_secs", .number fun n settings => { settings with timeoutSeconds := n }),
    ("version", .text fun s settings => { settings with version := s })]

def observabilitySection : Section :=
  [("log_level", .text fun s settings => { settings with logLevel := s }),
    ("metrics_enabled", .truth fun b settings => { settings with metricsEnabled := b }),
    ("metrics_address", .text fun s settings => { settings with metricsAddress := s })]

/-- The sections by name. -/
def sections : List (String × Section) :=
  [("listener", listenerSection), ("auth_backend", backendSection),
    ("observability", observabilitySection)]

namespace Section

/-- The settings with the fields that a table gives. -/
def ofEntries? (fields : Section) (es : Toml.Entries) (settings : Settings) : Option Settings :=
  es.foldlM (fun settings (name, v) =>
    match fields.lookup name with
    | some field => field v settings
    | none => some settings) settings

/-- The settings with the fields that an array gives, the first elements for the first fields. -/
def ofElements? : Section → List Value → Settings → Option Settings
  | (_, field) :: fields, v :: vs, settings => do
    ofElements? fields vs (← field v settings)
  | _, _, settings => some settings

/-- The settings with what a section gives; a point in time gives nothing. -/
def read? (fields : Section) : Value → Settings → Option Settings
  | .table _ es, settings => fields.ofEntries? es settings
  | .array vs, settings => fields.ofElements? vs settings
  | .tables elements, settings =>
    fields.ofElements? (elements.map (Value.table .header)) settings
  | .time _, settings => some settings
  | _, _ => none

end Section

/-- The settings with what the sections of a document give. -/
def ofEntries? (es : Toml.Entries) : Option Settings :=
  es.foldlM (fun settings (name, v) =>
    match sections.lookup name with
    | some fields => fields.read? v settings
    | none => some settings) {}

/-- The settings that the text of a document gives. -/
def ofText? (text : String) : Option Settings := do
  ofEntries? (← Toml.document? text)

end FrontDoor.Settings
