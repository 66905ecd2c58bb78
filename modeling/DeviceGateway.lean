import DeviceGateway.Bench.Run
import DeviceGateway.Main
import DeviceGateway.Proofs.Session.Run
import DeviceGateway.Proofs.Session.Teardown
import DeviceGateway.Proofs.Registry.Run
import DeviceGateway.Proofs.Registry.Turn
import DeviceGateway.Proofs.Registry.OneActive
import DeviceGateway.Proofs.Uplink.Correlation
import DeviceGateway.Proofs.Link.Run
import DeviceGateway.Proofs.Link.Returning
import DeviceGateway.Proofs.Link.Feedback
import DeviceGateway.Proofs.Supervisor.Run
import DeviceGateway.Proofs.Supervisor.Endings
import DeviceGateway.Proofs.Session.Slot
import DeviceGateway.Proofs.Session.Binding
import DeviceGateway.Proofs.Text.Percent
import DeviceGateway.Proofs.Text.Split
import DeviceGateway.Proofs.Topic.Bag
import DeviceGateway.Proofs.Session.Callbacks
import DeviceGateway.Proofs.Session.Overtaking
import DeviceGateway.Proofs.Session.Listening
import DeviceGateway.Proofs.Session.Subscribing
import DeviceGateway.Proofs.Time.Timestamp
import DeviceGateway.Proofs.Message.HubMessage
import DeviceGateway.Proofs.Json.Values
import DeviceGateway.Proofs.Message.Twin
import DeviceGateway.Proofs.Uplink.Refusal
import DeviceGateway.Proofs.Uplink.Routes
import DeviceGateway.Proofs.Uplink.Methods
import DeviceGateway.Proofs.Fleet.Run
import DeviceGateway.Proofs.Fleet.Standing
import DeviceGateway.Proofs.Fleet.Replacement
import DeviceGateway.Proofs.Fleet.Eviction
import DeviceGateway.Proofs.Fleet.Closing
import DeviceGateway.Proofs.Fleet.Stations
import DeviceGateway.Proofs.Fleet.Sending
import DeviceGateway.Proofs.Fleet.Finding
import DeviceGateway.Proofs.Fleet.Refusal
import DeviceGateway.Proofs.Topic.Telemetry
import DeviceGateway.Proofs.Session.Refusing
import DeviceGateway.Proofs.Uplink.Publishing
import DeviceGateway.Proofs.Supervisor.Limit
import DeviceGateway.Proofs.Topic.Router
import DeviceGateway.Proofs.Uplink.Dispatch
import DeviceGateway.Proofs.Supervisor.NoRetry
import DeviceGateway.Proofs.Message.Patch
import DeviceGateway.Proofs.Uplink.Patches
import DeviceGateway.Proofs.Uuid
import DeviceGateway.Proofs.Link.Tagging
import DeviceGateway.Proofs.Identity
import DeviceGateway.Proofs.Entries
import DeviceGateway.Proofs.Topic.Query
