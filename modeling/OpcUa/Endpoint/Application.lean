import OpcUa.Locale

/-!
# Application descriptions

How an application describes itself to its peers.
-/

namespace OpcUa

inductive ApplicationType where
  | server
  | client
  | clientAndServer
  | discoveryServer
  deriving DecidableEq, Repr

namespace ApplicationType

def names : List (String × ApplicationType) := [
  ("Server", .server), ("Client", .client), ("ClientAndServer", .clientAndServer),
  ("DiscoveryServer", .discoveryServer)]

def name : ApplicationType → String
  | .server => "Server"
  | .client => "Client"
  | .clientAndServer => "ClientAndServer"
  | .discoveryServer => "DiscoveryServer"

def toJson (t : ApplicationType) : Json :=
  .text t.name

def ofJson? (kept : Bool) : Json → Option ApplicationType :=
  Json.asChoice? kept names

end ApplicationType

structure ApplicationDescription where
  applicationUri : String := ""
  productUri : String := ""
  applicationName : LocalizedText := {}
  applicationType : ApplicationType := .server
  gatewayServerUri : Option String := none
  discoveryProfileUri : Option String := none
  discoveryUrls : List String := []
  deriving DecidableEq, Repr

namespace ApplicationDescription

def toJson (d : ApplicationDescription) : Json :=
  .object ([
    ("application_uri", .text d.applicationUri),
    ("product_uri", .text d.productUri),
    ("application_name", d.applicationName.toJson),
    ("application_type", d.applicationType.toJson)] ++
    Json.present "gateway_server_uri" .text d.gatewayServerUri ++
    Json.present "discovery_profile_uri" .text d.discoveryProfileUri ++
    [("discovery_urls", .ofStrings d.discoveryUrls)])

def ofJson? (kept : Bool) (value : Json) : Option ApplicationDescription := do
  let [uri, product, name, type, gateway, profile, urls] ← value.fields? [
    "application_uri", "product_uri", "application_name", "application_type",
    "gateway_server_uri", "discovery_profile_uri", "discovery_urls"] | none
  return {
    applicationUri := ← Json.orElse "" Json.asText? uri
    productUri := ← Json.orElse "" Json.asText? product
    applicationName := ← Json.orElse {} LocalizedText.ofJson? name
    applicationType := ← Json.orElse .server (ApplicationType.ofJson? kept) type
    gatewayServerUri := ← Json.optional Json.asText? gateway
    discoveryProfileUri := ← Json.optional Json.asText? profile
    discoveryUrls := ← Json.orElse [] Json.asTexts? urls }

instance : JsonForm ApplicationDescription where
  toJson := toJson
  ofJson? _ := ofJson? false

end ApplicationDescription

end OpcUa
