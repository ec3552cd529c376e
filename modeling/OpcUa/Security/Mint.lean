import OpcUa.Security.Identity
import OpcUa.X509.Issue

/-!
# Minting identities

A new identity for an application: a fresh key and a certificate that it signs itself.
-/

namespace OpcUa

/-- Names in a certificate are ASCII. -/
def asciiName (text : String) : Except String Unit :=
  if text.toList.all fun c => c.toNat < 128 then .ok ()
  else .error s!"Invalid IA5String: '{text}'"

/-- An identity whose certificate names the host and the application. -/
def Identity.mint (subject host uri : String) (d : X509.Draw) : Except String Identity := do
  asciiName host
  asciiName uri
  let certificate ← (Certificate.decode (X509.selfSigned subject host uri d)).mapError
    Fault.message
  let key ← (PrivateKey.ofDer (Key.pkcs8 d.key)).mapError Fault.message
  (Identity.of certificate key).mapError Fault.message

end OpcUa
