import OpcUa.Endpoint.Description

/-!
# Negotiation

Which token policy of an endpoint a client can use, and whether the endpoint needs a certificate.
-/

namespace OpcUa

/-- A client that can use every known policy but the disabled ones. -/
structure Negotiator where
  disabled : List SecurityPolicy := []

namespace Negotiator

def disable (n : Negotiator) (p : SecurityPolicy) : Negotiator :=
  ⟨p :: n.disabled⟩

def isEnabled (n : Negotiator) (p : SecurityPolicy) : Bool :=
  !n.disabled.contains p

/-- Whether a token can be protected as the policy asks. -/
def canUse (n : Negotiator) (p : UserTokenPolicy) : Bool :=
  match p.securityPolicy with
  | .ok policy => n.isEnabled policy
  | .error _ => false

/-- The first policy of that type that can be used. -/
def policyFor? (n : Negotiator) (e : EndpointDescription) (type : UserTokenType) :
    Option UserTokenPolicy :=
  e.tokenPolicies.find? fun p => n.canUse p && p.tokenType == type

def supports (n : Negotiator) (e : EndpointDescription) (type : UserTokenType) : Bool :=
  (n.policyFor? e type).isSome

end Negotiator

namespace UserTokenPolicy

/-- A certificate, or a token that any policy but the one without security protects. -/
def isSecured (p : UserTokenPolicy) : Bool :=
  p.tokenType == .certificate ||
    match p.securityPolicyUri with
    | none => false
    | some uri => uri != "" && uri != SecurityPolicy.none.uri

end UserTokenPolicy

namespace EndpointDescription

/-- Whether the endpoint signs messages or accepts a secured token. -/
def requiresCertificate (e : EndpointDescription) : Bool :=
  e.securityMode.signs || e.tokenPolicies.any UserTokenPolicy.isSecured

/-- The first token policy with that id. -/
def policyById? (e : EndpointDescription) (id : String) : Option UserTokenPolicy :=
  e.tokenPolicies.find? (·.policyId == some id)

end EndpointDescription

end OpcUa
