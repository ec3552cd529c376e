import OpcUa.Endpoint.Configuration
import OpcUa.Security.Configuration
import OpcUa.Security.Negotiation
import OpcUa.Server.Address

/-!
# Servers

What a server is made from, the endpoints that it advertises, and a server that listens.
-/

namespace OpcUa

namespace SecurityOffer

/-- Higher is stronger: the mode counts for more than the policy. -/
def level (o : SecurityOffer) : UInt8 :=
  let mode := match o.mode with
    | .invalid | .none => 0
    | .sign => 1
    | .signAndEncrypt => 2
  UInt8.ofNat (mode * 10 + o.policy.rank)

end SecurityOffer

structure ServerContext where
  kind : TransportKind
  listenAddress : String
  /-- The host in the URLs that are advertised. -/
  hostName : String
  application : ApplicationDescription
  security : TransportSecurity
  offers : List SecurityOffer
  tokenPolicies : List UserTokenPolicy
  limits : EndpointConfiguration

namespace ServerContext

def url (c : ServerContext) (port : UInt16) : String :=
  s!"{c.kind.scheme}://{c.hostName}:{port.toNat}"

/-- The certificate of the active identity and then those of its chain. -/
def certificateBytes? (c : ServerContext) : Option (List UInt8) :=
  c.security.identity?.map fun identity =>
    identity.certificate.der ++ (c.security.trustedChain.map Certificate.der).flatten

def endpoint (c : ServerContext) (port : UInt16) (offer : SecurityOffer) :
    EndpointDescription where
  endpointUrl := c.url port
  server := c.application
  serverCertificate := c.certificateBytes?
  securityMode := offer.mode
  securityPolicyUri := some offer.policy.uri
  userIdentityTokens := c.tokenPolicies.map some
  transportProfileUri := c.kind.profileUri
  securityLevel := offer.level

/-- Whether the offer, or a token that is accepted with it, cannot do without a certificate. -/
def needsCertificate (c : ServerContext) (port : UInt16) (offer : SecurityOffer) : Bool :=
  offer.mode != .none || offer.policy != .none || (c.endpoint port offer).requiresCertificate

def offered (c : ServerContext) (port : UInt16) (offer : SecurityOffer) :
    Except Fault EndpointDescription :=
  if c.needsCertificate port offer && c.certificateBytes?.isNone then
    .error (.certificateNeeded offer.mode.name offer.policy.name (c.url port))
  else .ok (c.endpoint port offer)

/-- One endpoint for each offer, unless one of them lacks a certificate. -/
def endpoints (c : ServerContext) (port : UInt16) : Except Fault (List EndpointDescription) :=
  c.offers.mapM (c.offered port)

end ServerContext

/-- A server that has been bound to an address. -/
structure Listener where
  kind : TransportKind
  localAddress : SocketAddress
  endpoints : List EndpointDescription
  /-- The largest message that is read or written. -/
  maxMessageSize : UInt32
  closed : Bool := false

namespace Listener

/-- Binds the address that a context asks for; `bind` gives the address that is then in use, or the
reason why it cannot be had. -/
def ofContext (bind : SocketAddress → Except String SocketAddress) (c : ServerContext) :
    Except Fault Listener :=
  match SocketAddress.ofText? c.listenAddress with
  | none => .error (.listenAddress c.listenAddress "invalid socket address syntax")
  | some address =>
    match bind address with
    | .error reason => .error (.io reason)
    | .ok localAddress =>
      (c.endpoints localAddress.port).map fun endpoints =>
        { kind := c.kind, localAddress, endpoints, maxMessageSize := c.limits.maxMessageSize }

def close (l : Listener) : Listener :=
  { l with closed := true }

def debugText (l : Listener) : String :=
  "ListenerServer \x7b kind: " ++ l.kind.debugText ++ ", local_addr: " ++ l.localAddress.text ++
    ", endpoints: " ++ toString l.endpoints.length ++ ", closed: " ++ toString l.closed ++ " \x7d"

end Listener

end OpcUa
