import OpcUa.Application.Basic
import OpcUa.Application.Fault
import OpcUa.Files

/-!
# Setting up an application

A configuration is checked as a whole before the first of its files is read, so that a fault in its
words comes before any fault in a file.
-/

namespace OpcUa

/-- What an application takes from where it is set up. -/
structure Surroundings where
  now : Instant
  hostName : String
  /-- A URI that no other application has. -/
  freshUri : String
  read : FileReader

namespace TransportConfig

/-- The first id that names no policy. -/
def unknownPolicy? (c : TransportConfig) : Option String :=
  c.userTokenPolicies.find? fun id => (UserTokenPolicy.wellKnown? id).isNone

def check (c : TransportConfig) (kind : TransportKind) : Except ConfigFault Unit :=
  match c.unknownPolicy? with
  | some id => .error (.tokenPolicy kind id)
  | none => .ok ()

/-- The trust policy that the configuration names files for. -/
def trustPolicy? (c : TransportConfig) (around : Surroundings) :
    Except Fault (Option TrustPolicy) :=
  if c.trustedCertificates.isEmpty then .ok none
  else do
    let trusted ← c.trustedCertificates.mapM fun path => do
      Certificate.load around.now (← around.read.bytes path)
    return some (.listed (.ofCertificates trusted))

/-- The security settings of the transport. Those of HTTPS count for HTTPS alone. -/
def transportSecurity (c : TransportConfig) (kind : TransportKind) (around : Surroundings) :
    Except Fault TransportSecurity := do
  let trust ← c.trustPolicy? around
  let isHttps := kind == .https
  let paired := c.username.isSome && c.password.isSome
  return {
    kind
    trust
    username := c.username.filter fun _ => paired
    password := c.password.filter fun _ => paired
    flags := if c.flags.isEmpty then none else some (EngineFlag.set c.flags)
    hostnameVerification := c.hostnameVerification.filter fun _ => isHttps
    httpsPolicies :=
      if isHttps && !c.httpsPolicies.isEmpty then some c.httpsPolicies else none }

end TransportConfig

namespace ApplicationConfig

def checkLocale (id : String) : Except ConfigFault Unit :=
  match Locale.ofText id with
  | .ok _ => .ok ()
  | .error cause => .error (.locale id cause)

/-- All locales can be read and all token policies are known. -/
def check (c : ApplicationConfig) : Except ConfigFault Unit := do
  c.locales.forM checkLocale
  c.tcp.check .opcTcp
  c.https.check .https

/-- The files that the configuration names, in the order in which they are read. -/
def files (c : ApplicationConfig) : List String :=
  c.tcp.trustedCertificates ++ c.https.trustedCertificates ++
    (c.identity.map fun i => [i.certificate, i.privateKey]).getD []

end ApplicationConfig

namespace Application

/-- An application with the settings of a configuration and the security of its transports. Locales
that cannot be read are passed over. -/
def assemble (c : ApplicationConfig) (around : Surroundings) (tcp https : TransportSecurity) :
    Application where
  uri := c.applicationUri.getD around.freshUri
  productUri := c.productUri
  name := .invariant c.applicationName
  locales := c.locales.filterMap fun id => (Locale.ofText id).toOption
  tcpSecurity := tcp
  httpsSecurity := https
  tcpSettings := .ofConfig around.hostName .opcTcp c.tcp
  httpsSettings := .ofConfig around.hostName .https c.https
  limits := c.limits

/-- An application with default settings. -/
def fresh (around : Surroundings) : Application :=
  assemble {} around { kind := .opcTcp } { kind := .https }

/-- The identity in the files of a configuration. -/
def loadIdentity (c : IdentityConfig) (around : Surroundings) : Except Fault Identity := do
  let certificate ← Certificate.load around.now (← around.read.bytes c.certificate)
  Identity.of certificate (← PrivateKey.load (← around.read.bytes c.privateKey))

/-- Reads the files of a configuration that has been checked. -/
def ofChecked (c : ApplicationConfig) (around : Surroundings) : Except Fault Application := do
  let tcp ← c.tcp.transportSecurity .opcTcp around
  let https ← c.https.transportSecurity .https around
  let application := assemble c around tcp https
  match c.identity with
  | none => return application
  | some files => return application.addIdentity (← loadIdentity files around)

def ofConfig (c : ApplicationConfig) (around : Surroundings) : Except AppFault Application :=
  match c.check with
  | .error fault => .error (.config fault)
  | .ok _ => (ofChecked c around).mapError .of

end Application

end OpcUa
