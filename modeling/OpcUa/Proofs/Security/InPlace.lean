import OpcUa.Proofs.Fallible
import OpcUa.Proofs.Security.History

/-!
# Configurations that are changed in place

A configuration that is changed in place is written to part by part, and a change that fails leaves
behind what it has written so far. That is nothing: each change asks for all that it needs before it
writes. So it comes to the same whether configurations are changed in place or made anew.
-/

namespace OpcUa

/-! ### Identities -/

namespace Identity

variable {i : Identity} {certificate : Certificate} {key : PrivateKey} {fault : Fault}

end Identity

namespace TransportSecurity

/-! ### Updates -/

namespace Update

end Update

variable {s after : TransportSecurity} {c : Change} {fault : Fault}

/-! ### What makes a change fail -/

/-- The faults that a change comes to. -/
inductive Refuses (s : TransportSecurity) : Change → Fault → Prop
  | keyMissing (certificate : Certificate) :
    Refuses s (.setIdentityFromParts certificate none) (.keyMissing certificate.subject)
  | keyForeign {certificate : Certificate} {key : PrivateKey}
    (foreign : certificate.publicKey ≠ key.publicKey) :
    Refuses s (.setIdentityFromParts certificate (some key)) (.keyForeign certificate.subject)
  | identityMissing (chain : List Certificate) :
    Refuses s (.setIdentities [] chain) (.identityMissing s.kind.scheme)
  | hostnameVerification (other : s.kind ≠ .https) (mode : HostnameVerification) :
    Refuses s (.setHostnameVerification mode) (.httpsOnly "hostname verification")
  | httpsPolicies (other : s.kind ≠ .https) (policies : List HttpsSecurityPolicy) :
    Refuses s (.setHttpsPolicies policies) (.httpsOnly "HTTPS security policies")

namespace History

end History

end TransportSecurity

end OpcUa
