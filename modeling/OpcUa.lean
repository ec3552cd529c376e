import OpcUa.Application.Fault
import OpcUa.Armour
import OpcUa.Base64
import OpcUa.Config.Basic
import OpcUa.Der.Element
import OpcUa.Der.Time
import OpcUa.Digest.Sha256
import OpcUa.Encoding.Array
import OpcUa.Encoding.Context
import OpcUa.Encoding.Envelope
import OpcUa.Endpoint.Application
import OpcUa.Endpoint.Configuration
import OpcUa.Endpoint.Description
import OpcUa.Endpoint.SoftwareCertificate
import OpcUa.Endpoint.TokenPolicy
import OpcUa.Fault
import OpcUa.Guid
import OpcUa.Hex
import OpcUa.Json.Basic
import OpcUa.Json.Form
import OpcUa.Json.Printer
import OpcUa.Json.Reader
import OpcUa.Json.Record
import OpcUa.Json.Token
import OpcUa.Key.Curve
import OpcUa.Key.Pkcs8
import OpcUa.Locale
import OpcUa.Namespace
import OpcUa.Node.Attributes
import OpcUa.NodeId.Basic
import OpcUa.NodeId.Identifier
import OpcUa.Security.Certificate
import OpcUa.Security.Configuration
import OpcUa.Security.Identity
import OpcUa.Security.Negotiation
import OpcUa.Security.Policy
import OpcUa.Security.PrivateKey
import OpcUa.Security.Thumbprint
import OpcUa.Security.Transport
import OpcUa.Security.Trust
import OpcUa.Server.Address
import OpcUa.Server.Context
import OpcUa.Server.Session
import OpcUa.Service.Browse
import OpcUa.Service.Discovery
import OpcUa.Service.GetEndpoints
import OpcUa.Service.Header
import OpcUa.Status
import OpcUa.Structure.Declared
import OpcUa.Structure.Descriptor
import OpcUa.Structure.Family
import OpcUa.Structure.Registry
import OpcUa.Structure.Standard
import OpcUa.Text.Blank
import OpcUa.Text.CaseMap
import OpcUa.Text.CaseTable
import OpcUa.Text.Cut
import OpcUa.Text.Decimal
import OpcUa.Text.HiddenTable
import OpcUa.Text.Quoted
import OpcUa.Time.Calendar
import OpcUa.Time.Instant
import OpcUa.Time.Rfc3339
import OpcUa.Wire.Fault
import OpcUa.Wire.Frame
import OpcUa.Wire.Message
import OpcUa.X509.Certificate
import OpcUa.X509.Name
import OpcUa.Application.Basic
import OpcUa.Application.Setup
import OpcUa.Application.Workshop
import OpcUa.Catalogue
import OpcUa.Command.Arguments
import OpcUa.Command.Console
import OpcUa.Command.Help
import OpcUa.Command.Offline
import OpcUa.Main
import OpcUa.Proofs.Server.Runs
import OpcUa.Proofs.Server.Sound
import OpcUa.Proofs.Server.Outcome
import OpcUa.Proofs.Server.Custody
import OpcUa.Proofs.Encoding.Typing
import OpcUa.Proofs.Server.Builds
import OpcUa.Proofs.Text.Base64
import OpcUa.Proofs.Text.Digits
import OpcUa.Proofs.Text.Hex
import OpcUa.Proofs.Text.Utf8
import OpcUa.Proofs.Time.Calendar
import OpcUa.Proofs.Time.Rfc3339
import OpcUa.Proofs.Json.Literal
import OpcUa.Proofs.Json.RoundTrip
import OpcUa.Proofs.Json.Record
import OpcUa.Proofs.Structure.RoundTrip
import OpcUa.Proofs.Encoding.RoundTrip
import OpcUa.Proofs.Wire.Message
import OpcUa.Proofs.Wire.Framing
import OpcUa.Proofs.Server.Transcript
import OpcUa.Proofs.Server.Discovery
import OpcUa.Proofs.Encoding.Items
import OpcUa.Proofs.Namespace.Indices
import OpcUa.Proofs.Namespace.Growth
import OpcUa.Proofs.Namespace.Servers
import OpcUa.Proofs.Structure.Supertypes
import OpcUa.Proofs.Json.Order
import OpcUa.Proofs.Structure.Order
import OpcUa.Proofs.Encoding.Envelope
import OpcUa.Proofs.Encoding.Translation
import OpcUa.Proofs.Encoding.TypeIds
import OpcUa.Proofs.Structure.Circles
import OpcUa.Proofs.Structure.Replacement
import OpcUa.Proofs.Text.Cut
import OpcUa.Proofs.Server.Selection
import OpcUa.Proofs.Security.Certificate
import OpcUa.Proofs.Server.Advertised
import OpcUa.Proofs.Security.HttpsSettings
import OpcUa.Proofs.Application.Presented
import OpcUa.Proofs.Security.Armoured
import OpcUa.Proofs.Security.Seeds
import OpcUa.Proofs.Wire.Sizes
import OpcUa.Proofs.Security.Negotiation
import OpcUa.Proofs.Security.Overlay
import OpcUa.Proofs.Server.Endpoints
import OpcUa.Application.SnapshotList
import OpcUa.Proofs.NodeId.Texts
import OpcUa.Proofs.Security.Sameness
import OpcUa.Proofs.Security.InPlace
import OpcUa.Proofs.Application.SnapshotList
import OpcUa.Proofs.Application.Identities
import OpcUa.Proofs.Application.Checked
import OpcUa.Proofs.Application.Saved
import OpcUa.Proofs.Command.Init
import OpcUa.Proofs.Security.TrustList
import OpcUa.Proofs.Security.Thumbprint
import OpcUa.Proofs.Locale
import OpcUa.Proofs.Config.Text
import OpcUa.Proofs.Config.Written
