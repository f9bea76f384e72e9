import CloudDirector.ApiVersion
import CloudDirector.Client.Assembly
import CloudDirector.Client.Call
import CloudDirector.Client.Group
import CloudDirector.Client.NetworkProxy
import CloudDirector.Client.OpenApi
import CloudDirector.Client.RequestPlan
import CloudDirector.Client.Response
import CloudDirector.Client.Retry
import CloudDirector.Client.Settings
import CloudDirector.Client.Verbs
import CloudDirector.Credential.Basic
import CloudDirector.Credential.Credentials
import CloudDirector.Credential.Multisite
import CloudDirector.Credential.Saml
import CloudDirector.Encoding.Base64
import CloudDirector.Encoding.Form
import CloudDirector.Encoding.Gzip
import CloudDirector.Encoding.HexNumber
import CloudDirector.Encoding.Percent
import CloudDirector.Error
import CloudDirector.Http.Checked
import CloudDirector.Http.Exchange
import CloudDirector.Http.Failure
import CloudDirector.Http.Headers
import CloudDirector.Http.Names
import CloudDirector.Http.Server
import CloudDirector.Http.Status
import CloudDirector.Json.Document
import CloudDirector.Json.Printer
import CloudDirector.Json.Reader
import CloudDirector.Json.Record
import CloudDirector.Json.Token
import CloudDirector.Json.Value
import CloudDirector.Keyed
import CloudDirector.Link.Find
import CloudDirector.Link.Header
import CloudDirector.Notification.Broker
import CloudDirector.Notification.Bus
import CloudDirector.Notification.Event
import CloudDirector.Number.Binary64
import CloudDirector.Number.Decimal
import CloudDirector.Number.Shortest
import CloudDirector.Program
import CloudDirector.Proofs.Program.Runs
import CloudDirector.Query.Basic
import CloudDirector.Query.Events
import CloudDirector.Query.Pages
import CloudDirector.Query.Records
import CloudDirector.Resource.Entity
import CloudDirector.Resource.ErrorDetail
import CloudDirector.Resource.Link
import CloudDirector.Resource.Page
import CloudDirector.Resource.Record
import CloudDirector.Resource.Reference
import CloudDirector.Resource.Session
import CloudDirector.Resource.Task
import CloudDirector.Resource.User
import CloudDirector.Resource.Versions
import CloudDirector.Session.Endpoint
import CloudDirector.Session.Login
import CloudDirector.Session.Resources
import CloudDirector.Session.State
import CloudDirector.Signature.Der
import CloudDirector.Signature.Pem
import CloudDirector.Signature.PrivateKey
import CloudDirector.Signature.RsaKey
import CloudDirector.Signature.Sha256
import CloudDirector.Task.Tracker
import CloudDirector.Task.Tracking
import CloudDirector.Task.Wait
import CloudDirector.Task.Watermark
import CloudDirector.Text.Blank
import CloudDirector.Text.CombiningClass
import CloudDirector.Text.Composition
import CloudDirector.Text.Cut
import CloudDirector.Text.Description
import CloudDirector.Text.Direction
import CloudDirector.Text.Joining
import CloudDirector.Text.Mark
import CloudDirector.Text.NormalForm
import CloudDirector.Text.Quoted
import CloudDirector.Text.Table
import CloudDirector.Text.Unshown
import CloudDirector.Text.Utf8
import CloudDirector.Time.Calendar
import CloudDirector.Time.HttpDate
import CloudDirector.Time.Instant
import CloudDirector.Time.Rfc3339
import CloudDirector.Time.Span
import CloudDirector.Time.Stamp
import CloudDirector.Url.Address
import CloudDirector.Url.Basic
import CloudDirector.Url.Domain
import CloudDirector.Url.Domain.Label
import CloudDirector.Url.Domain.Reading
import CloudDirector.Url.Drive
import CloudDirector.Url.Escaped
import CloudDirector.Url.Fault
import CloudDirector.Url.Parser
import CloudDirector.Url.Punycode
import CloudDirector.Uuid
import CloudDirector.Proofs.Session.Transaction
import CloudDirector.Proofs.Http.Validity
import CloudDirector.Proofs.Session.Headers
import CloudDirector.Proofs.Client.Assembly
import CloudDirector.Proofs.Client.Retrying
import CloudDirector.Proofs.Task.Tracker
import CloudDirector.Proofs.Task.Tracking
import CloudDirector.Proofs.Session.Replacement
import CloudDirector.Proofs.Time.Calendar
import CloudDirector.Proofs.Time.Rfc3339
import CloudDirector.Proofs.Task.Watermark
import CloudDirector.Proofs.Task.Completion
import CloudDirector.Proofs.Program.Guarantees
import CloudDirector.Proofs.Session.Changes
import CloudDirector.Proofs.Session.Sharing
import CloudDirector.Proofs.Session.Tenant
import CloudDirector.Proofs.Credential.Signing
import CloudDirector.Proofs.Session.Coherence
import CloudDirector.Proofs.Client.Steps
import CloudDirector.Proofs.Session.Atomicity
import CloudDirector.Proofs.Query.Fetching
import CloudDirector.Proofs.Query.Pages
import CloudDirector.Proofs.Client.Limits
import CloudDirector.Proofs.Http.Refusal
import CloudDirector.Proofs.Client.Keeping
import CloudDirector.Proofs.Query.Streaming
import CloudDirector.Proofs.Client.Layers
import CloudDirector.Proofs.Client.Renewal
import CloudDirector.Proofs.Credential.Coverage
import CloudDirector.Proofs.Program.Upholds
import CloudDirector.Proofs.Session.Upholding
import CloudDirector.Proofs.Session.Transfer
import CloudDirector.Proofs.Program.Lockstep
import CloudDirector.Proofs.Session.Confinement
import CloudDirector.Proofs.Resource.RoundTrip
import CloudDirector.Proofs.Notification.Delivery
import CloudDirector.Proofs.Query.Unique
import CloudDirector.Proofs.Client.Sources
import CloudDirector.Proofs.Task.Finality
import CloudDirector.Proofs.Task.Addresses
import CloudDirector.Proofs.Task.Filter
import CloudDirector.Proofs.Session.References
import CloudDirector.Proofs.Task.Waiting
import CloudDirector.Proofs.Session.Endpoints
import CloudDirector.Proofs.Text.Cutting
import CloudDirector.Proofs.Link.Entries
import CloudDirector.Proofs.Link.RoundTrip
import CloudDirector.Proofs.Link.Skipping
import CloudDirector.Proofs.ApiVersion
import CloudDirector.Proofs.Encoding.Form
import CloudDirector.Proofs.Query.Conjunction
import CloudDirector.Proofs.Query.Parameters
import CloudDirector.Proofs.Session.Cookies
import CloudDirector.Proofs.Encoding.Base64
import CloudDirector.Proofs.Credential.Equality
import CloudDirector.Proofs.Text.Quoted
import CloudDirector.Proofs.Text.Description
import CloudDirector.Proofs.Credential.Description
import CloudDirector.Proofs.Session.Description
import CloudDirector.Proofs.Task.Resets
