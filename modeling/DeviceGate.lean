import DeviceGate.Access.Authentication
import DeviceGate.Access.Authorization
import DeviceGate.Access.Decision
import DeviceGate.Access.Rule
import DeviceGate.Audit.Event
import DeviceGate.Audit.Journal
import DeviceGate.Audit.Trail
import DeviceGate.Batch.Ledger
import DeviceGate.Batch.Progress
import DeviceGate.Certificate.Authority
import DeviceGate.Certificate.Basic
import DeviceGate.Certificate.Connection
import DeviceGate.Certificate.Connector
import DeviceGate.Certificate.Desk
import DeviceGate.Certificate.Issuer
import DeviceGate.Certificate.Lifecycle
import DeviceGate.Certificate.Rotation
import DeviceGate.Certificate.Scripted
import DeviceGate.Certificate.Ttl
import DeviceGate.Config.Records
import DeviceGate.Config.Settings
import DeviceGate.Config.Toml
import DeviceGate.Config.TomlScalar
import DeviceGate.Config.TomlTable
import DeviceGate.Config.Tree
import DeviceGate.Digest.Hmac
import DeviceGate.Digest.Sha256
import DeviceGate.Fleet.Records
import DeviceGate.Fleet.Seed
import DeviceGate.Fleet.Sweep
import DeviceGate.Gate.Command
import DeviceGate.Gate.Configuration
import DeviceGate.Gate.Service
import DeviceGate.Gate.State
import DeviceGate.Gate.World
import DeviceGate.Http.Body
import DeviceGate.Http.Endpoint
import DeviceGate.Http.Handler
import DeviceGate.Http.MediaType
import DeviceGate.Http.Reply
import DeviceGate.Json.Basic
import DeviceGate.Json.Canonical
import DeviceGate.Json.Label
import DeviceGate.Json.Reader
import DeviceGate.Log
import DeviceGate.Main
import DeviceGate.Number.Binary64
import DeviceGate.Number.Layout
import DeviceGate.Number.Literal
import DeviceGate.Number.Shortest
import DeviceGate.Schedule
import DeviceGate.Store.Basic
import DeviceGate.Store.Cache
import DeviceGate.Store.Error
import DeviceGate.Store.Transaction
import DeviceGate.Telemetry.Admission
import DeviceGate.Telemetry.Integrity
import DeviceGate.Telemetry.Message
import DeviceGate.Telemetry.Payload
import DeviceGate.Telemetry.Sequence
import DeviceGate.Text.Base64Url
import DeviceGate.Text.Blank
import DeviceGate.Text.Hex
import DeviceGate.Text.Percent
import DeviceGate.Text.Quoted
import DeviceGate.Text.Unprintable
import DeviceGate.Time.Civil
import DeviceGate.Time.Clock
import DeviceGate.Time.Rfc3339
import DeviceGate.Time.Span
import DeviceGate.Time.Timestamp
import DeviceGate.Topic
import DeviceGate.Proofs.Access.Policy
import DeviceGate.Proofs.Telemetry.Transaction
import DeviceGate.Proofs.Telemetry.Checkpoints
import DeviceGate.Proofs.Telemetry.Answer
import DeviceGate.Proofs.Telemetry.Rejection
import DeviceGate.Proofs.Number.Interval
import DeviceGate.Proofs.Number.Shortest
import DeviceGate.Proofs.Number.Layout
import DeviceGate.Proofs.Json.Canonical
import DeviceGate.Proofs.Access.Session
import DeviceGate.Proofs.Batch.Session
import DeviceGate.Proofs.Batch.Tally
import DeviceGate.Proofs.Batch.ExactlyOnce
import DeviceGate.Proofs.Number.Reading
import DeviceGate.Proofs.Number.Rounding
import DeviceGate.Proofs.Number.Reread
import DeviceGate.Proofs.Json.Reading
import DeviceGate.Proofs.Telemetry.Transmission
import DeviceGate.Proofs.Topic.Covering
import DeviceGate.Proofs.Access.Reach
import DeviceGate.Proofs.Batch.Retry
import DeviceGate.Proofs.Telemetry.SequenceCache
import DeviceGate.Proofs.Telemetry.GapHistory
import DeviceGate.Proofs.Telemetry.Stored
import DeviceGate.Proofs.Gate.Outage
import DeviceGate.Proofs.Audit.Trail
import DeviceGate.Proofs.Audit.Emission
import DeviceGate.Proofs.Audit.Attestation
import DeviceGate.Proofs.Audit.Outbox
import DeviceGate.Proofs.Telemetry.Placement
import DeviceGate.Proofs.Certificate.Sessions
import DeviceGate.Proofs.Certificate.Cycles
import DeviceGate.Proofs.Telemetry.Transport
import DeviceGate.Proofs.Http.Publish
import DeviceGate.Proofs.Telemetry.Envelope
import DeviceGate.Proofs.Store.Growth
import DeviceGate.Proofs.Gate.Reached
import DeviceGate.Proofs.Gate.Committed
import DeviceGate.Proofs.Store.Enrollment
import DeviceGate.Proofs.Certificate.KeyMaterial
import DeviceGate.Proofs.Fleet.Presence
import DeviceGate.Proofs.Schedule.Deadlines
import DeviceGate.Proofs.Schedule.Loops
import DeviceGate.Proofs.Text.Hex
import DeviceGate.Proofs.Telemetry.Signature
import DeviceGate.Proofs.Topic.Scanning
import DeviceGate.Proofs.Access.Identity
import DeviceGate.Proofs.Telemetry.Gap
import DeviceGate.Proofs.Time.Since
import DeviceGate.Proofs.Certificate.Renewal
import DeviceGate.Proofs.Fleet.Overdue
import DeviceGate.Proofs.Certificate.Ttl
import DeviceGate.Proofs.Telemetry.Grammar
