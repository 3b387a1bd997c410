import CertSteward.ApiError
import CertSteward.Certificate
import CertSteward.Certificate.Json
import CertSteward.Client
import CertSteward.Client.Session
import CertSteward.Config
import CertSteward.Config.Error
import CertSteward.Config.Expansion
import CertSteward.Config.FileTree
import CertSteward.Config.Session
import CertSteward.Config.Store
import CertSteward.Config.Text
import CertSteward.Context.Plan
import CertSteward.Context.Session
import CertSteward.Decimal.Binary64
import CertSteward.Decimal.Shortest
import CertSteward.Duration
import CertSteward.Environment
import CertSteward.Http
import CertSteward.Http.Server
import CertSteward.Json.Document
import CertSteward.Json.Reader
import CertSteward.Json.Shape
import CertSteward.Json.Value
import CertSteward.Json.Writer
import CertSteward.Log
import CertSteward.Manager
import CertSteward.Manager.Session
import CertSteward.Mapping
import CertSteward.Mismatch
import CertSteward.Operation
import CertSteward.Operation.Json
import CertSteward.Profile
import CertSteward.Profile.Format
import CertSteward.Progress
import CertSteward.Proofs.Client.Addresses
import CertSteward.Proofs.Client.Bases
import CertSteward.Proofs.Client.Exchanges
import CertSteward.Proofs.Client.Listing
import CertSteward.Proofs.Client.Outcomes
import CertSteward.Proofs.Client.Pages
import CertSteward.Proofs.Client.Requests
import CertSteward.Proofs.Client.Secrecy
import CertSteward.Proofs.Config.Defaults
import CertSteward.Proofs.Config.Edits
import CertSteward.Proofs.Config.Expansion
import CertSteward.Proofs.Config.References
import CertSteward.Proofs.Config.RoundTrip
import CertSteward.Proofs.Config.Selection
import CertSteward.Proofs.Config.Tokens
import CertSteward.Proofs.Config.Written
import CertSteward.Proofs.Context.Accounts
import CertSteward.Proofs.Context.Chronicle
import CertSteward.Proofs.Context.Derivation
import CertSteward.Proofs.Context.FirstCause
import CertSteward.Proofs.Context.Isolation
import CertSteward.Proofs.Context.Parting
import CertSteward.Proofs.Context.Records
import CertSteward.Proofs.Context.Reports
import CertSteward.Proofs.Context.Resolution
import CertSteward.Proofs.Context.Soundness
import CertSteward.Proofs.Context.Telling
import CertSteward.Proofs.Decimal.Digits
import CertSteward.Proofs.Json.Entering
import CertSteward.Proofs.Json.Growth
import CertSteward.Proofs.Json.Members
import CertSteward.Proofs.Json.Records
import CertSteward.Proofs.Json.Written
import CertSteward.Proofs.Manager.Building
import CertSteward.Proofs.Manager.Changes
import CertSteward.Proofs.Manager.Failures
import CertSteward.Proofs.Manager.Invariants
import CertSteward.Proofs.Manager.Presence
import CertSteward.Proofs.Manager.Requests
import CertSteward.Proofs.Manager.Success
import CertSteward.Proofs.Mapping
import CertSteward.Proofs.Operation.Members
import CertSteward.Proofs.Outcome
import CertSteward.Proofs.Profile.Clients
import CertSteward.Proofs.Service.Mirror
import CertSteward.Proofs.Service.Trace
import CertSteward.Proofs.Text.Order
import CertSteward.Proofs.Text.Utf8
import CertSteward.Proofs.Timeline.Alike
import CertSteward.Proofs.Timeline.Cancelling
import CertSteward.Proofs.Timeline.Clock
import CertSteward.Proofs.Timeline.Ending
import CertSteward.Proofs.Timeline.Instants
import CertSteward.Proofs.Timeline.Schedules
import CertSteward.Proofs.Timestamp.RoundTrip
import CertSteward.Proofs.Toml.Decoding
import CertSteward.Proofs.Toml.Distinct
import CertSteward.Proofs.Toml.Lines
import CertSteward.Proofs.Toml.Locality
import CertSteward.Proofs.Toml.Places
import CertSteward.Proofs.Toml.Readings
import CertSteward.Proofs.Toml.Retold
import CertSteward.Proofs.Toml.Stretches
import CertSteward.Proofs.Toml.Strings
import CertSteward.Proofs.Toml.Tables
import CertSteward.Proofs.Toml.Words
import CertSteward.Proofs.Url.Authorities
import CertSteward.Proofs.Url.Domains
import CertSteward.Proofs.Url.Forms
import CertSteward.Proofs.Url.Hosts
import CertSteward.Proofs.Url.Ideographs
import CertSteward.Proofs.Url.Numeric
import CertSteward.Proofs.Url.Paths
import CertSteward.Proofs.Url.Percent
import CertSteward.Proofs.Url.Punycode
import CertSteward.Proofs.Url.Segments
import CertSteward.Proofs.Url.Texts
import CertSteward.Proofs.Waiter.Course
import CertSteward.Proofs.Waiter.Outcome
import CertSteward.Proofs.Waiter.Reporting
import CertSteward.Proofs.Waiter.Timing
import CertSteward.Proofs.Waiter.Truncation
import CertSteward.Proofs.Wire.RoundTrip
import CertSteward.Proofs.Wire.Tolerance
import CertSteward.Service
import CertSteward.Service.Script
import CertSteward.StewardError
import CertSteward.Text.Alphanumeric
import CertSteward.Text.Blank
import CertSteward.Text.Composed
import CertSteward.Text.Packed
import CertSteward.Text.Printable
import CertSteward.Text.Quoted
import CertSteward.Text.Ranges
import CertSteward.Text.Utf8
import CertSteward.Timeline
import CertSteward.Timestamp
import CertSteward.Timestamp.Reader
import CertSteward.Toml.Decode
import CertSteward.Toml.Fault
import CertSteward.Toml.Reader
import CertSteward.Toml.Scalar
import CertSteward.Toml.Table
import CertSteward.Toml.Text
import CertSteward.Toml.Value
import CertSteward.Toml.Writer
import CertSteward.Url
import CertSteward.Url.Domain
import CertSteward.Url.Domain.Direction
import CertSteward.Url.Domain.Joining
import CertSteward.Url.Domain.Table
import CertSteward.Url.Host
import CertSteward.Url.Percent
import CertSteward.Url.Punycode
import CertSteward.Url.Reader
import CertSteward.Waiter
import CertSteward.Waiter.Session
