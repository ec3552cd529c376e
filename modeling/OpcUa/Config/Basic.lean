import OpcUa.Endpoint.Configuration
import OpcUa.Security.Policy
import OpcUa.Security.Transport

/-!
# Configurations

How an application is to be set up. Every member may be left out and then has a default.
-/

namespace OpcUa

/-- The files of the application's certificate and key. -/
structure IdentityConfig where
  certificate : String
  privateKey : String
  deriving DecidableEq, Repr

namespace IdentityConfig

def toJson (c : IdentityConfig) : Json :=
  .object [("certificate", .text c.certificate), ("private_key", .text c.privateKey)]

def ofJson? (value : Json) : Option IdentityConfig := do
  let [certificate, key] ← value.fields? ["certificate", "private_key"] | none
  return {
    certificate := ← Json.required Json.asText? certificate
    privateKey := ← Json.required Json.asText? key }

instance : JsonForm IdentityConfig where
  toJson := toJson
  ofJson? _ := ofJson?

end IdentityConfig

structure TransportConfig where
  /-- Host and port; when absent, the default of the transport. -/
  listenAddress : Option String := none
  /-- The host in the URLs that are advertised. -/
  hostName : Option String := none
  /-- Each flag once and in order. -/
  flags : List EngineFlag := []
  username : Option String := none
  password : Option String := none
  security : List SecurityOffer := [.none]
  /-- The ids of well-known policies. -/
  userTokenPolicies : List String := ["anonymous"]
  /-- Files of certificates to accept from peers; when empty, all are accepted. -/
  trustedCertificates : List String := []
  hostnameVerification : Option HostnameVerification := none
  httpsPolicies : List HttpsSecurityPolicy := []
  deriving DecidableEq, Repr

namespace TransportConfig

def listenAddressFor (c : TransportConfig) (kind : TransportKind) : String :=
  c.listenAddress.getD kind.defaultListenAddress

def toJson (c : TransportConfig) : Json :=
  .object [
    ("listen_addr", .ofOption .text c.listenAddress),
    ("host_name", .ofOption .text c.hostName),
    ("flags", .list (c.flags.map EngineFlag.toJson)),
    ("username", .ofOption .text c.username),
    ("password", .ofOption .text c.password),
    ("security", .list (c.security.map SecurityOffer.toJson)),
    ("user_token_policies", .ofStrings c.userTokenPolicies),
    ("trusted_certificates", .ofStrings c.trustedCertificates),
    ("hostname_verification", .ofOption HostnameVerification.toJson c.hostnameVerification),
    ("https_policies", .list (c.httpsPolicies.map HttpsSecurityPolicy.toJson))]

def ofJson? (value : Json) : Option TransportConfig := do
  let [listen, host, flags, username, password, security, tokens, trusted, verification, https] ←
    value.fields? [
      "listen_addr", "host_name", "flags", "username", "password", "security",
      "user_token_policies", "trusted_certificates", "hostname_verification",
      "https_policies"] | none
  let unset : TransportConfig := {}
  return {
    listenAddress := ← Json.optional Json.asText? listen
    hostName := ← Json.optional Json.asText? host
    flags := EngineFlag.set (← Json.orElse [] (Json.asList? EngineFlag.ofJson?) flags)
    username := ← Json.optional Json.asText? username
    password := ← Json.optional Json.asText? password
    security := ← Json.orElse unset.security (Json.asList? SecurityOffer.ofJson?) security
    userTokenPolicies := ← Json.orElse unset.userTokenPolicies Json.asTexts? tokens
    trustedCertificates := ← Json.orElse [] Json.asTexts? trusted
    hostnameVerification := ← Json.optional HostnameVerification.ofJson? verification
    httpsPolicies := ← Json.orElse [] (Json.asList? HttpsSecurityPolicy.ofJson?) https }

instance : JsonForm TransportConfig where
  toJson := toJson
  ofJson? _ := ofJson?

end TransportConfig

structure ApplicationConfig where
  /-- When absent, a URI is made up. -/
  applicationUri : Option String := none
  productUri : String := "urn:uastack"
  applicationName : String := "uastack"
  locales : List String := ["en"]
  identity : Option IdentityConfig := none
  tcp : TransportConfig := {}
  https : TransportConfig := {}
  limits : EndpointConfiguration := {}
  deriving DecidableEq, Repr

namespace ApplicationConfig

def transport (c : ApplicationConfig) : TransportKind → TransportConfig
  | .opcTcp => c.tcp
  | .https => c.https

def toJson (c : ApplicationConfig) : Json :=
  .object [
    ("application_uri", .ofOption .text c.applicationUri),
    ("product_uri", .text c.productUri),
    ("application_name", .text c.applicationName),
    ("locales", .ofStrings c.locales),
    ("identity", .ofOption IdentityConfig.toJson c.identity),
    ("tcp", c.tcp.toJson),
    ("https", c.https.toJson),
    ("limits", c.limits.toJson)]

def ofJson? (value : Json) : Option ApplicationConfig := do
  let [uri, product, name, locales, identity, tcp, https, limits] ← value.fields? [
    "application_uri", "product_uri", "application_name", "locales", "identity", "tcp", "https",
    "limits"] | none
  let unset : ApplicationConfig := {}
  return {
    applicationUri := ← Json.optional Json.asText? uri
    productUri := ← Json.orElse unset.productUri Json.asText? product
    applicationName := ← Json.orElse unset.applicationName Json.asText? name
    locales := ← Json.orElse unset.locales Json.asTexts? locales
    identity := ← Json.optional IdentityConfig.ofJson? identity
    tcp := ← Json.orElse {} TransportConfig.ofJson? tcp
    https := ← Json.orElse {} TransportConfig.ofJson? https
    limits := ← Json.orElse {} EndpointConfiguration.ofJson? limits }

instance : JsonForm ApplicationConfig where
  toJson := toJson
  ofJson? _ := ofJson?

end ApplicationConfig

end OpcUa
