import Splinter.TwoPhase.Agreement
import Splinter.TwoPhase.Finality
import Splinter.TwoPhase.Awaiting
import Splinter.TwoPhase.Authority
import Splinter.Admin.Provenance
import Splinter.Admin.Binding
import Splinter.Admin.Unanimity
import Splinter.Admin.Storage
import Splinter.Scabbard.Registration
import Splinter.Transport.Framing
import Splinter.Services.Hosting
import Splinter.Services.Answers
import Splinter.Circuits.Delivery
import Splinter.Network.Guard
import Splinter.Transport.Inproc
import Splinter.Admin.Locking
import Splinter.Services.Metadata
import Splinter.Admin.Subscription
import Splinter.Routes.Circuits
import Splinter.NodeRegistry.Listing
import Splinter.NodeRegistry.Atomicity
import Splinter.Scabbard.BatchStatus
import Splinter.Services.Announcing
import Splinter.Admin.Assertion
import Splinter.TwoPhase.Completeness
import Splinter.TwoPhase.Conservation
import Splinter.Admin.Peering
import Splinter.Admin.Directory
import Splinter.Admin.Atomicity
import Splinter.Network.Connector
import Splinter.Admin.Lookup
import Splinter.Services.Durability
import Splinter.TwoPhase.Backlog
import Splinter.Admin.BoundedSet
import Splinter.Events.WebSocket
import Splinter.HexParsing
