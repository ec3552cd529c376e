import OpcUa.Notice
import OpcUa.Status
import OpcUa.Text.Decimal
import OpcUa.Time.Instant

/-!
# Faults

What can go wrong below the application and the wire, by cause. Every cause has a kind, and the
kind decides the status code that a peer is told.
-/

namespace OpcUa

namespace Fault

inductive Kind where
  | certificateInvalid
  | certificateTimeInvalid
  | certificateUntrusted
  | unexpectedConfiguration
  | unresolvedNamespace
  | unknownPayloadType
  | unsupportedSecurityPolicy
  | encoding
  | decoding
  | io
  deriving DecidableEq, Repr

namespace Kind

def all : List Kind := [
  .certificateInvalid, .certificateTimeInvalid, .certificateUntrusted, .unexpectedConfiguration,
  .unresolvedNamespace, .unknownPayloadType, .unsupportedSecurityPolicy, .encoding, .decoding, .io]

def name : Kind → String
  | .certificateInvalid => "CertificateInvalid"
  | .certificateTimeInvalid => "CertificateTimeInvalid"
  | .certificateUntrusted => "CertificateUntrusted"
  | .unexpectedConfiguration => "UnexpectedConfiguration"
  | .unresolvedNamespace => "UnresolvedNamespace"
  | .unknownPayloadType => "UnknownPayloadType"
  | .unsupportedSecurityPolicy => "UnsupportedSecurityPolicy"
  | .encoding => "Encoding"
  | .decoding => "Decoding"
  | .io => "Io"

def ofName? (name : String) : Option Kind :=
  all.find? (·.name == name)

def heading : Kind → String
  | .certificateInvalid => "Certificate invalid"
  | .certificateTimeInvalid => "Certificate time invalid"
  | .certificateUntrusted => "Certificate untrusted"
  | .unexpectedConfiguration => "Unexpected configuration"
  | .unresolvedNamespace => "Unresolved namespace"
  | .unknownPayloadType => "Unknown payload type"
  | .unsupportedSecurityPolicy => "Unsupported security policy"
  | .encoding => "Encoding error"
  | .decoding => "Decoding error"
  | .io => "IO error"

def status : Kind → StatusCode
  | .certificateInvalid => .badCertificateInvalid
  | .certificateTimeInvalid => .badCertificateTimeInvalid
  | .certificateUntrusted => .badCertificateUntrusted
  | .unexpectedConfiguration => .badUnexpectedError
  | .unresolvedNamespace => .badNotFound
  | .unknownPayloadType => .badDataTypeIdUnknown
  | .unsupportedSecurityPolicy => .badSecurityPolicyRejected
  | .encoding => .badEncodingError
  | .decoding => .badDecodingError
  | .io => .badCommunicationError

end Kind

end Fault

inductive Fault where
  /-- Known by its kind and its words alone. -/
  | reported (kind : Fault.Kind) (detail : String)
  -- Node ids
  | identifierMalformed (text : String)
  | identifierTypeUnknown (kind : String)
  | numericIdentifier (value : String) (cause : Decimal.Fault)
  | guidIdentifier (value : String)
  | opaqueIdentifier (value : String)
  | nodeIdMalformed (text : String)
  | namespaceIndexText (value : String) (cause : Decimal.Fault)
  -- Namespaces and servers
  | namespaceTableFull (uri : String)
  | namespaceUnknown (uri : String)
  | namespaceIndexUnknown (index : UInt16) (id : String)
  | remoteServer (id : String) (index : UInt32)
  | namespaceIndexMissing
  | serverTableFull (uri : String)
  -- Locales and policies
  | localeInvalid (text : String)
  | securityPolicyUnknown (uri : String)
  -- Certificates and keys
  | thumbprintText (text : String)
  | thumbprintLength (length : Nat)
  | certificateTooLarge (size limit : Nat)
  | certificateUnreadable
  | armourUnreadable
  | armourLabel (expected found : String)
  | notYetValid (subject : String) (start : Instant)
  | expired (subject : String) (stop : Instant)
  | untrusted (subject thumbprint : String)
  | keyUnreadable
  | keyForeign (subject : String)
  | keyMissing (subject : String)
  -- Transports and endpoints
  | identityMissing (transport : String)
  | httpsOnly (setting : String)
  | certificateNeeded (mode policy url : String)
  | listenAddress (address reason : String)
  | serverMissing (scheme : String)
  | schemeMissing (url : String)
  -- Payloads
  | bodyTooLarge (type : String) (size limit : Nat)
  | bodyOverLimit (size limit : Nat)
  | bodyUnreadable (type : String)
  | arrayTooLong (length limit : Nat)
  | valueMissing (id : String)
  | typeMismatch (expected found : String)
  | io (reason : String)
  deriving DecidableEq, Repr

namespace Fault

def kind : Fault → Kind
  | .reported kind _ => kind
  | .certificateTooLarge .. | .certificateUnreadable | .armourUnreadable | .armourLabel .. =>
    .certificateInvalid
  | .notYetValid .. | .expired .. => .certificateTimeInvalid
  | .untrusted .. => .certificateUntrusted
  | .namespaceTableFull .. | .serverTableFull .. | .keyUnreadable | .keyForeign .. | .keyMissing ..
  | .identityMissing .. | .httpsOnly .. | .certificateNeeded .. | .listenAddress ..
  | .serverMissing .. | .schemeMissing .. => .unexpectedConfiguration
  | .namespaceUnknown .. | .namespaceIndexUnknown .. | .remoteServer .. => .unresolvedNamespace
  | .valueMissing .. | .typeMismatch .. => .unknownPayloadType
  | .securityPolicyUnknown .. => .unsupportedSecurityPolicy
  | .namespaceIndexMissing | .bodyTooLarge .. => .encoding
  | .identifierMalformed .. | .identifierTypeUnknown .. | .numericIdentifier ..
  | .guidIdentifier .. | .opaqueIdentifier .. | .nodeIdMalformed .. | .namespaceIndexText ..
  | .localeInvalid .. | .thumbprintText .. | .thumbprintLength .. | .bodyOverLimit ..
  | .bodyUnreadable .. | .arrayTooLong .. => .decoding
  | .io .. => .io

/-- What is said about the fault besides its kind. -/
def detail? : Fault → Option String
  | .reported _ detail => some detail
  | .identifierMalformed text => some s!"malformed identifier '{text}'"
  | .identifierTypeUnknown kind => some s!"unknown identifier type '{kind}'"
  | .numericIdentifier value cause => some s!"bad numeric identifier '{value}': {cause.message}"
  | .guidIdentifier value => some s!"bad guid identifier '{value}'"
  | .opaqueIdentifier value => some s!"bad opaque identifier '{value}'"
  | .nodeIdMalformed text => some s!"malformed node id '{text}'"
  | .namespaceIndexText value cause => some s!"bad namespace index '{value}': {cause.message}"
  | .namespaceTableFull uri => some s!"namespace table full, cannot add {uri}"
  | .namespaceUnknown uri => some s!"namespace {uri} is not in the table"
  | .namespaceIndexUnknown index id => some s!"namespace index {index} of {id} is not in the table"
  | .remoteServer id index => some s!"{id} refers to remote server {index}"
  | .namespaceIndexMissing => some "Could not get namespace index for given id"
  | .serverTableFull uri => some s!"server table full, cannot add {uri}"
  | .localeInvalid text => some s!"invalid locale '{text}'"
  | .securityPolicyUnknown uri => some uri
  | .thumbprintText text => some s!"bad thumbprint '{text}'"
  | .thumbprintLength length => some s!"thumbprint must be 32 bytes, got {length}"
  | .certificateTooLarge size limit => some s!"certificate too large: {size} bytes (max {limit})"
  | .armourUnreadable => some "bad PEM"
  | .armourLabel expected found => some s!"expected a {expected} PEM block, found {found}"
  | .notYetValid subject start => some s!"{subject} is not valid before {start.spaced}"
  | .expired subject stop => some s!"{subject} expired at {stop.spaced}"
  | .untrusted subject thumbprint => some s!"{subject} ({thumbprint}) is not on the trust list"
  | .keyUnreadable => some "bad private key"
  | .keyForeign subject => some s!"private key does not match certificate {subject}"
  | .keyMissing subject => some s!"no private key for certificate {subject}"
  | .identityMissing transport => some s!"{transport} transport: at least one identity is required"
  | .httpsOnly setting => some s!"{setting} only applies to the HTTPS transport"
  | .certificateNeeded mode policy url =>
    some s!"{mode}/{policy} on {url} needs an application instance certificate"
  | .listenAddress address reason => some s!"listen address {address}: {reason}"
  | .serverMissing scheme => some s!"no server for scheme '{scheme}'"
  | .schemeMissing url => some s!"no scheme in endpoint url '{url}'"
  | .bodyTooLarge type size limit => some s!"{type} body of {size} bytes exceeds limit of {limit}"
  | .bodyOverLimit size limit => some s!"body of {size} bytes exceeds limit of {limit}"
  | .bodyUnreadable type => some type
  | .arrayTooLong length limit => some s!"array of {length} elements exceeds limit of {limit}"
  | .valueMissing id => some s!"{id} did not decode to a value"
  | .typeMismatch expected found => some s!"expected {expected}, found {found}"
  | .certificateUnreadable | .io _ => none

/-- What the reader of another format says. -/
def cause? : Fault → Option String
  | .guidIdentifier _ => some "not a guid"
  | .opaqueIdentifier _ => some "not base64"
  | .thumbprintText _ => some "not hexadecimal"
  | .certificateUnreadable => some "not an X.509 certificate"
  | .armourUnreadable => some "not a PEM block"
  | .keyUnreadable => some "not a supported PKCS#8 key"
  | .bodyUnreadable _ => some "not a value of this type"
  | .io reason => some reason
  | _ => none

def notice (f : Fault) : Notice :=
  ⟨f.kind.heading :: f.detail?.toList, f.cause?⟩

def message (f : Fault) : String :=
  f.notice.text

def status (f : Fault) : StatusCode :=
  f.kind.status

/-- What lies beneath the fault, where that is told once more in a report. -/
def sources : Fault → List String
  | .io reason => [reason]
  | _ => []

end Fault

end OpcUa
