import OpcUa.Config.Basic
import OpcUa.Server.Context

/-!
# Applications

The owner of identities, of the security of both transports and of what its servers are made from.
-/

namespace OpcUa

/-- Where and how one transport listens. -/
structure TransportSettings where
  listenAddress : String
  hostName : String
  offers : List SecurityOffer
  tokenPolicies : List UserTokenPolicy

/-- Ids that name no policy are passed over. -/
def TransportSettings.ofConfig (hostName : String) (kind : TransportKind) (c : TransportConfig) :
    TransportSettings where
  listenAddress := c.listenAddressFor kind
  hostName := c.hostName.getD hostName
  offers := c.security
  tokenPolicies := c.userTokenPolicies.filterMap UserTokenPolicy.wellKnown?

structure Application where
  uri : String
  productUri : String
  name : LocalizedText
  /-- The latest last. -/
  identities : List Identity := []
  locales : List Locale
  tcpSecurity : TransportSecurity
  httpsSecurity : TransportSecurity
  tcpSettings : TransportSettings
  httpsSettings : TransportSettings
  limits : EndpointConfiguration

namespace Application

def description (a : Application) : ApplicationDescription where
  applicationUri := a.uri
  productUri := a.productUri
  applicationName := a.name

/-! ### Identities -/

def addIdentity (a : Application) (identity : Identity) : Application :=
  { a with identities := a.identities ++ [identity] }

/-- The application without the first identity that is the same, and whether there was one. -/
def removeIdentity (a : Application) (identity : Identity) : Application × Bool :=
  ({ a with identities := a.identities.erase identity }, a.identities.contains identity)

/-- The identity that was added last, of those that are still there. -/
def currentIdentity? (a : Application) : Option Identity :=
  a.identities.getLast?

def localeIds (a : Application) : List String :=
  a.locales.map Locale.id

/-! ### Transport security -/

def security (a : Application) : TransportKind → TransportSecurity
  | .opcTcp => a.tcpSecurity
  | .https => a.httpsSecurity

def settings (a : Application) : TransportKind → TransportSettings
  | .opcTcp => a.tcpSettings
  | .https => a.httpsSettings

/-- Replaces the configuration of the transport that `s` is for. -/
def setSecurity (a : Application) (s : TransportSecurity) : Application :=
  match s.kind with
  | .opcTcp => { a with tcpSecurity := s }
  | .https => { a with httpsSecurity := s }

/-- Lays `upper` over the configuration of the transport that it is for. -/
def overlaySecurity (a : Application) (upper : TransportSecurity) : Application :=
  match upper.kind with
  | .opcTcp => { a with tcpSecurity := a.tcpSecurity.overlay upper }
  | .https => { a with httpsSecurity := a.httpsSecurity.overlay upper }

/-- The security of a server: a transport without an identity presents the current one of the
application. -/
def effectiveSecurity (a : Application) (kind : TransportKind) : TransportSecurity :=
  let own := a.security kind
  match own.identity?, a.currentIdentity? with
  | none, some identity => own.setIdentity identity []
  | _, _ => own

/-! ### Servers -/

/-- What a server of the transport is made from. -/
def serverContext (a : Application) (kind : TransportKind) : ServerContext :=
  let settings := a.settings kind
  { kind
    listenAddress := settings.listenAddress
    hostName := settings.hostName
    application := a.description
    security := a.effectiveSecurity kind
    offers := settings.offers
    tokenPolicies := settings.tokenPolicies
    limits := a.limits }

end Application

end OpcUa
