import OpcUa.Endpoint.Application
import OpcUa.Endpoint.TokenPolicy

/-!
# Endpoint descriptions

An endpoint joins an address with one way to secure messages and with the tokens that users may
show there.
-/

namespace OpcUa

structure EndpointDescription where
  endpointUrl : String := ""
  server : ApplicationDescription := {}
  /-- The server's certificate in DER, the certificates of its chain after it. -/
  serverCertificate : Option (List UInt8) := none
  securityMode : MessageSecurityMode := .none
  securityPolicyUri : Option String := none
  /-- Entries may be absent. -/
  userIdentityTokens : List (Option UserTokenPolicy) := []
  transportProfileUri : String := ""
  /-- Higher is stronger. -/
  securityLevel : UInt8 := 0
  deriving DecidableEq, Repr

namespace EndpointDescription

def securityPolicy (e : EndpointDescription) : Except Fault SecurityPolicy :=
  SecurityPolicy.ofOptionalUri e.securityPolicyUri

/-- The token policies that are present. -/
def tokenPolicies (e : EndpointDescription) : List UserTokenPolicy :=
  e.userIdentityTokens.filterMap fun entry => entry

def toJson (e : EndpointDescription) : Json :=
  .object ([
    ("endpoint_url", .text e.endpointUrl),
    ("server", e.server.toJson)] ++
    Json.present "server_certificate" .ofBytes e.serverCertificate ++
    [("security_mode", e.securityMode.toJson)] ++
    Json.present "security_policy_uri" .text e.securityPolicyUri ++ [
    ("user_identity_tokens",
      .list (e.userIdentityTokens.map (Json.ofOption UserTokenPolicy.toJson))),
    ("transport_profile_uri", .text e.transportProfileUri),
    ("security_level", .ofNat e.securityLevel.toNat)])

def ofJson? (kept : Bool) (value : Json) : Option EndpointDescription := do
  let [url, server, certificate, mode, policy, tokens, profile, level] ← value.fields? [
    "endpoint_url", "server", "server_certificate", "security_mode", "security_policy_uri",
    "user_identity_tokens", "transport_profile_uri", "security_level"] | none
  return {
    endpointUrl := ← Json.orElse "" Json.asText? url
    server := ← Json.orElse {} (ApplicationDescription.ofJson? kept) server
    serverCertificate := ← Json.optional Json.asBytes? certificate
    securityMode := ← Json.orElse .none (MessageSecurityMode.ofJson? kept) mode
    securityPolicyUri := ← Json.optional Json.asText? policy
    userIdentityTokens :=
      ← Json.orElse [] (Json.asList? (Json.asOption? (UserTokenPolicy.ofJson? kept))) tokens
    transportProfileUri := ← Json.orElse "" Json.asText? profile
    securityLevel := ← Json.orElse 0 Json.asUInt8? level }

instance : JsonForm EndpointDescription where
  toJson := toJson
  ofJson? _ := ofJson? false

end EndpointDescription

end OpcUa
