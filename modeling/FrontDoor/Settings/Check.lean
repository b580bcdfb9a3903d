/-
Whether a gateway can run on its settings.

Each rule is about one setting, apart from the metrics address, which counts only when metrics
are shown.  All problems are found, not only the first, in the order of the settings.
-/
import FrontDoor.Delegation
import FrontDoor.Net.Address
import FrontDoor.Settings.Basic
import FrontDoor.Url.Basic

namespace FrontDoor.Settings

/-- What is wrong with a setting. -/
inductive Problem
  | bindAddress (text : String)
  | backendUrl (text : String)
  | backendScheme (scheme : String)
  | backendSuffix
  | zeroTimeout
  | version
  | metricsAddress (text : String)
  deriving DecidableEq, Repr

namespace Problem

/-- The problem in a message. -/
def message : Problem → String
  | .bindAddress text =>
    "listener.bind_address " ++ Text.quoted text ++ " is not a socket address"
  | .backendUrl text => "auth_backend.url " ++ Text.quoted text ++ " is not a valid URL"
  | .backendScheme scheme => "auth_backend.url must use http, got " ++ Text.quoted scheme
  | .backendSuffix => "auth_backend.url must not carry a query or fragment"
  | .zeroTimeout => "auth_backend.timeout_secs must be greater than zero"
  | .version => "auth_backend.version must be a non-empty header value"
  | .metricsAddress text =>
    "observability.metrics_address " ++ Text.quoted text ++ " is not a socket address"

/-- The name of the rule that is broken. -/
def rule : Problem → String
  | .bindAddress _ => "BindAddress"
  | .backendUrl _ => "BackendUrl"
  | .backendScheme _ => "BackendScheme"
  | .backendSuffix => "BackendSuffix"
  | .zeroTimeout => "ZeroTimeout"
  | .version => "Version"
  | .metricsAddress _ => "MetricsAddress"

/-- The text at fault, where the problem shows one. -/
def culprit? : Problem → Option String
  | .bindAddress text | .backendUrl text | .backendScheme text | .metricsAddress text => some text
  | .backendSuffix | .zeroTimeout | .version => none

/-- The rule with the text at fault. -/
def debugText (p : Problem) : String :=
  match p.culprit? with
  | some text => p.rule ++ "(" ++ Text.quoted text ++ ")"
  | none => p.rule

end Problem

/-- The text is a socket address. -/
def isSocketAddress (text : String) : Bool :=
  (Net.SocketAddress.ofText? text).isSome

/-- What is wrong with the address of a backend: it speaks plain HTTP, and delegated URIs go on
from its path. -/
def backendProblems (text : String) : List Problem :=
  match Url.ofText? text with
  | none => [.backendUrl text]
  | some url =>
    (if url.scheme = "http" then [] else [.backendScheme url.scheme]) ++
      if url.query?.isSome || url.fragment?.isSome then [.backendSuffix] else []

/-- All that is wrong with the settings. -/
def problems (s : Settings) : List Problem :=
  (if isSocketAddress s.bindAddress then [] else [.bindAddress s.bindAddress]) ++
    backendProblems s.backendUrl ++
    (if s.timeoutSeconds = 0 then [.zeroTimeout] else []) ++
    (if s.version.isEmpty || !Http.isHeaderValue (Bytes.ofString s.version) then [.version]
      else []) ++
    if s.metricsEnabled && !isSocketAddress s.metricsAddress then
      [.metricsAddress s.metricsAddress]
    else []

end FrontDoor.Settings
