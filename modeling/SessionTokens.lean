import SessionTokens.CommandLine
import SessionTokens.Config.Environment
import SessionTokens.Config.Json
import SessionTokens.Config.Path
import SessionTokens.Config.Toml.Reader
import SessionTokens.Config.Toml.Scalar
import SessionTokens.Config.Toml.Text
import SessionTokens.Config.Toml.Tree
import SessionTokens.Config.Value
import SessionTokens.Demonstration
import SessionTokens.Digest.Hmac
import SessionTokens.Digest.Sha256
import SessionTokens.Host.Basic
import SessionTokens.Host.Fault
import SessionTokens.Host.Interleaving
import SessionTokens.Host.Reporter
import SessionTokens.Host.Scope
import SessionTokens.Http.Api
import SessionTokens.Http.Cookie
import SessionTokens.Http.MediaType
import SessionTokens.Http.Message
import SessionTokens.Http.Rejection
import SessionTokens.Http.Route
import SessionTokens.Http.Target
import SessionTokens.Identity.Uuid
import SessionTokens.Json.Kept
import SessionTokens.Json.Node
import SessionTokens.Json.Reader
import SessionTokens.Json.Value
import SessionTokens.Log.Event
import SessionTokens.Log.Filter
import SessionTokens.Log.Level
import SessionTokens.Main
import SessionTokens.Number.Double
import SessionTokens.Number.Word
import SessionTokens.Proofs.Host.Alone
import SessionTokens.Proofs.Host.Calm
import SessionTokens.Proofs.Host.Execution
import SessionTokens.Proofs.Host.Journal
import SessionTokens.Proofs.Host.Memory
import SessionTokens.Proofs.Host.Progress
import SessionTokens.Proofs.Host.Reporter
import SessionTokens.Proofs.Host.System
import SessionTokens.Proofs.Host.Timing
import SessionTokens.Proofs.Http.Api
import SessionTokens.Proofs.Http.Cookie
import SessionTokens.Proofs.Http.NotFound
import SessionTokens.Proofs.Http.Reading
import SessionTokens.Proofs.Http.Refusal
import SessionTokens.Proofs.Http.Roles
import SessionTokens.Proofs.Http.Route
import SessionTokens.Proofs.Http.Served
import SessionTokens.Proofs.Http.Sparing
import SessionTokens.Proofs.Http.Trust
import SessionTokens.Proofs.Identity.Uuid
import SessionTokens.Proofs.Json.Node
import SessionTokens.Proofs.Json.Read
import SessionTokens.Proofs.Json.Record
import SessionTokens.Proofs.Program.Course
import SessionTokens.Proofs.Program.Dealings
import SessionTokens.Proofs.Registry.Backend
import SessionTokens.Proofs.Registry.Count
import SessionTokens.Proofs.Registry.Coverage
import SessionTokens.Proofs.Registry.Independence
import SessionTokens.Proofs.Registry.Interchange
import SessionTokens.Proofs.Registry.Keyed
import SessionTokens.Proofs.Registry.Lifetime
import SessionTokens.Proofs.Registry.Memory
import SessionTokens.Proofs.Registry.Pattern
import SessionTokens.Proofs.Registry.Scan
import SessionTokens.Proofs.Registry.Slot
import SessionTokens.Proofs.Registry.Vanishing
import SessionTokens.Proofs.Registry.Withdrawal
import SessionTokens.Proofs.Server.NotFound
import SessionTokens.Proofs.Server.Refusal
import SessionTokens.Proofs.Server.Roles
import SessionTokens.Proofs.Server.RoundTrip
import SessionTokens.Proofs.Session.Alarms
import SessionTokens.Proofs.Session.AllOrNothing
import SessionTokens.Proofs.Session.Coverage
import SessionTokens.Proofs.Session.Dealings
import SessionTokens.Proofs.Session.Exchange
import SessionTokens.Proofs.Session.Expiry
import SessionTokens.Proofs.Session.FailClosed
import SessionTokens.Proofs.Session.Harmless
import SessionTokens.Proofs.Session.Issuance
import SessionTokens.Proofs.Session.Ledger
import SessionTokens.Proofs.Session.Lineage
import SessionTokens.Proofs.Session.Logout
import SessionTokens.Proofs.Session.OneSuccessor
import SessionTokens.Proofs.Session.Pairing
import SessionTokens.Proofs.Session.Permanence
import SessionTokens.Proofs.Session.Registration
import SessionTokens.Proofs.Session.Served
import SessionTokens.Proofs.Session.Services
import SessionTokens.Proofs.Session.Tries
import SessionTokens.Proofs.Text.Bytes
import SessionTokens.Proofs.Text.Numerals
import SessionTokens.Proofs.Time.Limits
import SessionTokens.Proofs.Token.Codec
import SessionTokens.Proofs.Token.RoundTrip
import SessionTokens.Proofs.Token.Separation
import SessionTokens.Proofs.Token.Signature
import SessionTokens.Proofs.Token.Window
import SessionTokens.Registry.Backend
import SessionTokens.Registry.Basic
import SessionTokens.Registry.Keyed.Registry
import SessionTokens.Registry.Keyed.Server
import SessionTokens.Registry.Memory
import SessionTokens.Registry.Retention
import SessionTokens.Roles.Directory
import SessionTokens.Server.Address
import SessionTokens.Server.Build
import SessionTokens.Server.Run
import SessionTokens.Server.Startup
import SessionTokens.Session.Device
import SessionTokens.Session.Error
import SessionTokens.Session.Issuer
import SessionTokens.Session.Ledger
import SessionTokens.Session.Program
import SessionTokens.Session.User
import SessionTokens.Settings.Basic
import SessionTokens.Settings.Dump
import SessionTokens.Settings.Load
import SessionTokens.Settings.Shipped
import SessionTokens.Text.Alphanumeric
import SessionTokens.Text.Base64Url
import SessionTokens.Text.Blank
import SessionTokens.Text.Decimal
import SessionTokens.Text.Hex
import SessionTokens.Text.Quoted
import SessionTokens.Text.Unshown
import SessionTokens.Text.Utf8
import SessionTokens.Time.Calendar
import SessionTokens.Time.Instant
import SessionTokens.Token.Claims
import SessionTokens.Token.Codec
import SessionTokens.Token.Header
import SessionTokens.Token.Kind
import SessionTokens.Token.Secrets
