import OpcUa.Security.Policy

/-!
# User token policies

A way for a user to authenticate at an endpoint. Five of them are well known and go by their ids in
a configuration.
-/

namespace OpcUa

structure UserTokenPolicy where
  policyId : Option String := none
  tokenType : UserTokenType
  issuedTokenType : Option String := none
  issuerEndpointUrl : Option String := none
  /-- What the token is protected with. -/
  securityPolicyUri : Option String := none
  deriving DecidableEq, Repr

namespace UserTokenPolicy

def anonymous : UserTokenPolicy where
  policyId := some "anonymous"
  tokenType := .anonymous

/-- A policy whose tokens are protected. -/
def secured (id : String) (type : UserTokenType) (policy : SecurityPolicy) : UserTokenPolicy where
  policyId := some id
  tokenType := type
  securityPolicyUri := some policy.uri

def wellKnown : List UserTokenPolicy := [
  anonymous,
  secured "username_basic128" .userName .basic128Rsa15,
  secured "username_basic256" .userName .basic256,
  secured "certificate_basic128" .certificate .basic128Rsa15,
  secured "certificate_basic256" .certificate .basic256]

def wellKnown? (id : String) : Option UserTokenPolicy :=
  wellKnown.find? (·.policyId == some id)

/-- The policy that protects the token. -/
def securityPolicy (p : UserTokenPolicy) : Except Fault SecurityPolicy :=
  SecurityPolicy.ofOptionalUri p.securityPolicyUri

def toJson (p : UserTokenPolicy) : Json :=
  .object (
    Json.present "policy_id" .text p.policyId ++
    [("token_type", p.tokenType.toJson)] ++
    Json.present "issued_token_type" .text p.issuedTokenType ++
    Json.present "issuer_endpoint_url" .text p.issuerEndpointUrl ++
    Json.present "security_policy_uri" .text p.securityPolicyUri)

def ofJson? (kept : Bool) (value : Json) : Option UserTokenPolicy := do
  let [id, type, issued, issuer, policy] ← value.fields?
    ["policy_id", "token_type", "issued_token_type", "issuer_endpoint_url", "security_policy_uri"]
    | none
  return {
    policyId := ← Json.optional Json.asText? id
    tokenType := ← Json.required (UserTokenType.ofJson? kept) type
    issuedTokenType := ← Json.optional Json.asText? issued
    issuerEndpointUrl := ← Json.optional Json.asText? issuer
    securityPolicyUri := ← Json.optional Json.asText? policy }

instance : JsonForm UserTokenPolicy where
  toJson := toJson
  ofJson? _ := ofJson? false

end UserTokenPolicy

end OpcUa
