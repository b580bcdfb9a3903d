import FrontDoor.Backend.Script
import FrontDoor.Main
import FrontDoor.Proofs.Gateway.Payload
import FrontDoor.Proofs.Http.UriReader
import FrontDoor.Proofs.Route.Order
import FrontDoor.StopSignal
import FrontDoor.Proofs.Delegation.Fields
import FrontDoor.Proofs.Delegation.Address
import FrontDoor.Proofs.Url.Scheme
import FrontDoor.Proofs.Gateway.Destination
import FrontDoor.Proofs.Gateway.Forwarding
import FrontDoor.Proofs.Stages.Refusal
import FrontDoor.Proofs.Gateway.Refusal
import FrontDoor.Proofs.Grant.Extension
import FrontDoor.Proofs.Grant.List
import FrontDoor.Proofs.Stages.Grant
import FrontDoor.Proofs.Gateway.Counting
import FrontDoor.Proofs.StopSignal.Balance
import FrontDoor.Proofs.Gateway.Logging
import FrontDoor.Proofs.Gateway.Disclosure
import FrontDoor.Proofs.Gateway.Usability
import FrontDoor.Proofs.Route.Anchored
import FrontDoor.Proofs.Route.Template
import FrontDoor.Proofs.Stages.Place
import FrontDoor.Proofs.Settings.Layers
import FrontDoor.Proofs.Grant.Blank
import FrontDoor.Proofs.Gateway.Effect
import FrontDoor.Proofs.Gateway.Forms
import FrontDoor.Proofs.Program.Readiness
import FrontDoor.Proofs.Settings.Repair
