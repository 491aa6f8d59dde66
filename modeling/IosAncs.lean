import IosAncs.Foundation.Runs
import IosAncs.Foundation.Sections
import IosAncs.Foundation.Sequential
import IosAncs.Foundation.Histories
import IosAncs.Foundation.CString
import IosAncs.Foundation.RecencyList
import IosAncs.Foundation.Association
import IosAncs.Foundation.AgedTable
import IosAncs.Foundation.Fragments
import IosAncs.Foundation.CircularArray
import IosAncs.Foundation.Epochs
import IosAncs.Foundation.BitMask
import IosAncs.Foundation.LittleEndian
import IosAncs.Foundation.BitwiseCrc
import IosAncs.Foundation.SelfDelimiting
import IosAncs.Foundation.Sha256
import IosAncs.Foundation.Utf8
import IosAncs.Foundation.JsonString
import IosAncs.Foundation.Decimal
import IosAncs.Foundation.Json
import IosAncs.Protocol.RequestQueue
import IosAncs.Protocol.Notification
import IosAncs.Protocol.DataParser
import IosAncs.Protocol.AppResolver
import IosAncs.Protocol.PendingQueue
import IosAncs.Protocol.Fragmentation
import IosAncs.Protocol.AttributeFields
import IosAncs.Protocol.ResponseGrammar
import IosAncs.Protocol.AppResponseGrammar
import IosAncs.Client.Enroll
import IosAncs.Client.EnrollButton
import IosAncs.Client.Context
import IosAncs.Client.Callbacks
import IosAncs.Client.Moves
import IosAncs.Client.EnrollmentSafety
import IosAncs.Client.LinkDeadline
import IosAncs.Client.Replacement
import IosAncs.Client.StateNames
import IosAncs.Client.Readiness
import IosAncs.Client.Outgoing
import IosAncs.Worker.Context
import IosAncs.Worker.NotificationCache
import IosAncs.Worker.Desk
import IosAncs.Worker.Refinement
import IosAncs.Worker.Removal
import IosAncs.Worker.Parking
import IosAncs.Worker.Outcomes
import IosAncs.Worker.Sessions
import IosAncs.Worker.Isolation
import IosAncs.Provisioning.State
import IosAncs.Provisioning.RefusalStreak
import IosAncs.Provisioning.SetupAp
import IosAncs.Provisioning.Retry
import IosAncs.Provisioning.RetryPacing
import IosAncs.Provisioning.RecoveryAnnouncement
import IosAncs.Provisioning.CaptiveDns
import IosAncs.Foundation.Mutex
import IosAncs.Provisioning.WifiRuntime
import IosAncs.Provisioning.WifiInvariant
import IosAncs.Provisioning.WifiOperations
import IosAncs.Provisioning.WifiSafety
import IosAncs.Provisioning.WifiEvents
import IosAncs.Provision.Config
import IosAncs.Provision.Policy
import IosAncs.Provision.Fingerprint
import IosAncs.Provision.Store
import IosAncs.Provision.SlotCodec
import IosAncs.Provision.Portal
import IosAncs.Provision.VerifiedPassword
import IosAncs.Provision.PortalServer
import IosAncs.Provision.PortalSecrets
import IosAncs.Relay.Context
import IosAncs.Relay.Frames
import IosAncs.Relay.Items
import IosAncs.Relay.Drain
import IosAncs.Relay.Stop
import IosAncs.Relay.RelayId
import IosAncs.Relay.RelayDigest
import IosAncs.Relay.Topics
import IosAncs.Foundation.RecentRing
import IosAncs.Relay.Policy
import IosAncs.Relay.System
import IosAncs.Relay.Ledger
import IosAncs.Relay.Moves
import IosAncs.Relay.Control
import IosAncs.Relay.Simulation
import IosAncs.Relay.Ownership
import IosAncs.Relay.Duplicates
import IosAncs.Relay.Configuration
import IosAncs.Relay.Lost
import IosAncs.Foundation.Sampling
import IosAncs.Relay.StatePublication
import IosAncs.Relay.StatePayload
import IosAncs.Relay.DiscoveryPayloads
import IosAncs.Relay.StateOrder
import IosAncs.Relay.JsonWriters
import IosAncs.Relay.NotificationJson
import IosAncs.Relay.NotificationPayload
import IosAncs.Coordinator.Context
import IosAncs.Coordinator.Handlers
import IosAncs.Coordinator.Frames
import IosAncs.Coordinator.VerifiedMarker
import IosAncs.Coordinator.NetworkView
import IosAncs.HomeAssistant.Notification
import IosAncs.HomeAssistant.Runtime
import IosAncs.HomeAssistant.Delivery
import IosAncs.HomeAssistant.Pairing
import IosAncs.HomeAssistant.Diagnostics
import IosAncs.HomeAssistant.DiagnosticsDownload
import IosAncs.HomeAssistant.StatusReading
import IosAncs.HomeAssistant.NotificationReading
import IosAncs.HomeAssistant.Freshness
import IosAncs.HomeAssistant.Snapshot
import IosAncs.HomeAssistant.EntryLife
import IosAncs.HomeAssistant.Removal
