import GroupCall.Table
import GroupCall.Text.Blank
import GroupCall.Text.Line
import GroupCall.Text.Decimal
import GroupCall.Text.Hex
import GroupCall.Text.Utf8
import GroupCall.Text.Base64Url
import GroupCall.Json.Printer
import GroupCall.Sdp.Compress
import GroupCall.Sdp.Expand
import GroupCall.Sdp.Simulcast
import GroupCall.Sdp.Wire
import GroupCall.Crypto.Sha256
import GroupCall.Crypto.Gcm
import GroupCall.Crypto.X25519
import GroupCall.Crypto.Frame
import GroupCall.Protocol.Dispatch
import GroupCall.Protocol.Outbound
import GroupCall.Simulation.Network
import GroupCall.Call.Session
import GroupCall.Call.Slots
import GroupCall.Call.Engine
import GroupCall.Call.KeyAgreement
import GroupCall.Call.Initiator
import GroupCall.Simulation.Client
import GroupCall.Call.Media
import GroupCall.Call.View
import GroupCall.Simulation.Loopback
import GroupCall.Proofs.Sdp.RoundTrip
import GroupCall.Proofs.Slots.Ownership
import GroupCall.Proofs.Slots.Untouched
import GroupCall.Proofs.Keys.Lockout
import GroupCall.Proofs.Relay.News
import GroupCall.Proofs.Relay.Runs
import GroupCall.Proofs.Relay.Order
import GroupCall.Proofs.Refusals
import GroupCall.Proofs.Routine
import GroupCall.Proofs.Changes
import GroupCall.Proofs.Lifecycle
import GroupCall.Proofs.Keys.Handing
import GroupCall.Proofs.Keys.Distribution
import GroupCall.Proofs.Crypto.Aes
import GroupCall.Proofs.Keys.Agreement
import GroupCall.Proofs.Relay.Sockets
import GroupCall.Proofs.Atomicity
import GroupCall.Proofs.Link
import GroupCall.Proofs.Media.Release
import GroupCall.Proofs.Crypto.Nonces
import GroupCall.Proofs.Relay.Joins
import GroupCall.Proofs.Relay.Stopping
import GroupCall.Proofs.Relay.Freshness
import GroupCall.Proofs.HalfJoined
import GroupCall.Proofs.Sdp.Canonical
import GroupCall.Proofs.Sending.Gating
import GroupCall.Proofs.Sending.Early
import GroupCall.Proofs.Sending.Discipline
import GroupCall.Proofs.Company.Moderators
import GroupCall.Proofs.Frames.Inbound
import GroupCall.Proofs.Frames.Outbound
import GroupCall.Proofs.Calls.Registry
import GroupCall.Proofs.Keys.Retention
import GroupCall.Proofs.Sdp.Layers
import GroupCall.Proofs.Sdp.Collisions
import GroupCall.Proofs.Sdp.Bundles
import GroupCall.Proofs.Relay.Queue
import GroupCall.Proofs.Relay.Delays
import GroupCall.Proofs.Slots.TrackCalls
import GroupCall.Proofs.Media.Faithful
