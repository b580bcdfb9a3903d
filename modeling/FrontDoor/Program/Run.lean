/-
A run of the program, from the command line to its end.

The program prepares its settings, starts to log, shows metrics if it should, binds its address
and serves until it is told to stop.  Settings that cannot be used end it before it logs, an
address that cannot be bound after; metrics that cannot be shown are only logged.
-/
import FrontDoor.Gateway.Setup
import FrontDoor.Net.Address
import FrontDoor.Program.Arguments
import FrontDoor.Program.LogFilter

namespace FrontDoor.Program

/-- How the program is told to stop. -/
inductive Signal
  | interrupt
  | terminate
  deriving DecidableEq, Repr

def Signal.name : Signal → String
  | .interrupt => "SIGINT"
  | .terminate => "SIGTERM"

/-- A log record and the part of the program it comes from. -/
structure Event where
  target : String
  record : Record
  deriving DecidableEq, Repr

namespace Event

/-- The names of its fields, of which the message is one. -/
def fieldNames (e : Event) : List String :=
  "message" :: e.record.fields.map Prod.fst

/-- The event as a line of the log, without its time. -/
def line (e : Event) : String :=
  let fields := e.record.fields.map fun (name, value) => " " ++ name ++ "=" ++ value
  e.record.level.text ++ " " ++ e.target ++ ": " ++ e.record.message ++ String.join fields

end Event

/-- What the program finds around it. -/
structure Surroundings where
  readText : String → Except Disk.Error String
  /-- The log filter of the environment. -/
  logFilter? : Option String := none
  /-- The address that is bound when one is asked for. -/
  bind : Net.SocketAddress → Except Disk.Errno Net.SocketAddress

/-- How a run ends. -/
inductive Ending
  /-- A text was asked for. -/
  | told (text : String)
  /-- The command line makes no sense. -/
  | misused
  | failed (cause : String)
  | stopped
  /-- The log filter cannot be cut into its parts. -/
  | broken
  deriving DecidableEq, Repr

def Ending.exitCode : Ending → Nat
  | .told _ => 0
  | .misused => 2
  | .failed _ => 1
  | .stopped => 0
  | .broken => 101

/-- What a run comes to. -/
structure Report where
  /-- The lines of the log. -/
  log : List String := []
  /-- What is wrong with the log filter. -/
  complaints : List String := []
  ending : Ending
  deriving DecidableEq, Repr

/-! ### Events -/

/-- The events before anything is bound. -/
def opening (s : Settings) : List Event :=
  [⟨"git_gateway", .info, "git-gateway starting", [("version", Text.quoted gatewayVersion)]⟩,
    ⟨"git_gateway", .info, "Configuration loaded",
      [("bind_address", s.bindAddress), ("auth_backend", s.backendUrl),
        ("auth_timeout_secs", toString s.timeoutSeconds)]⟩]

/-- The event that metrics are shown at an address, or why they are not. -/
def metricsEvent (around : Surroundings) (address : Net.SocketAddress) : Event :=
  match around.bind address with
  | .ok _ =>
    ⟨"git_gateway::observability::metrics", .info, "Metrics endpoint listening",
      [("address", address.text)]⟩
  | .error errno =>
    ⟨"git_gateway::observability::metrics", .error, "Failed to install metrics exporter",
      [("address", address.text),
        ("error", "failed to create HTTP listener: " ++ (Disk.Error.system errno).message)]⟩

/-- The events about metrics. -/
def metricsEvents (around : Surroundings) (s : Settings) : List Event :=
  if s.metricsEnabled then
    match Net.SocketAddress.ofText? s.metricsAddress with
    | some address => [metricsEvent around address]
    | none => []
  else []

/-- The events from serving at an address to the end. -/
def closing (s : Settings) (address : Net.SocketAddress) (signal : Signal) : List Event :=
  [⟨"git_gateway::http::server", Gateway.serving address.text s.backendUrl⟩,
    ⟨"git_gateway::lifecycle::signals", .info, signal.name ++ " received, shutting down", []⟩,
    ⟨"git_gateway::http::server", Gateway.served⟩,
    ⟨"git_gateway", .info, "Shutdown complete", []⟩]

/-! ### Runs -/

/-- The address the program serves at. -/
def bound (around : Surroundings) (s : Settings) : Except Disk.Error Net.SocketAddress :=
  match Net.SocketAddress.ofText? s.bindAddress with
  | some address => (around.bind address).mapError .system
  | none => .error (.other "invalid socket address")

/-- The events of a run with settings, and how it ends. -/
def live (around : Surroundings) (s : Settings) (signal : Signal) : List Event × Ending :=
  let started := opening s ++ metricsEvents around s
  match bound around s with
  | .error cause => (started, .failed cause.debugText)
  | .ok address =>
    match Gateway.ofSettings? s with
    | .error problem => (started, .failed problem.message)
    | .ok _ => (started ++ closing s address signal, .stopped)

/-- The line that describes the program. -/
def description : String := "Routing and authorization front door for Git over HTTP"

/-- A run with arguments. -/
def start (around : Surroundings) (arguments : Arguments) (signal : Signal) : Report :=
  match Settings.prepare around.readText arguments.config? arguments.overrides with
  | .error failure => { ending := .failed failure.debugText }
  | .ok settings =>
    match LogFilter.choose? around.logFilter? settings.logLevel with
    | none => { ending := .broken }
    | some (filter, complaints) =>
      let (events, ending) := live around settings signal
      let shown := events.filter fun e => filter.shows e.target e.record.level e.fieldNames
      { log := shown.map Event.line, complaints, ending }

/-- A run with a command line; `signal` is how it is told to stop once it serves. -/
def run (around : Surroundings) (words : List String) (signal : Signal) : Report :=
  match Command.ofWords words with
  | .help => { ending := .told description }
  | .version => { ending := .told ("git-gateway " ++ gatewayVersion) }
  | .misused => { ending := .misused }
  | .run arguments => start around arguments signal

end FrontDoor.Program
