import OpcUa.Proofs.Security.Certificate
import OpcUa.Proofs.Server.Endpoints
import OpcUa.Security.Mint

/-!
# Advertised certificates

The endpoints of a server with an identity have its certificate, with those of the chain after it.
It is decoded from there if the chain leaves it within the limit.
-/

namespace OpcUa.ServerContext

namespace Plant

/-- The certificate that the secret 1 signs for itself. -/
def certificate : Certificate where
  der := X509.selfSigned "plant" "plant" "urn:plant" ⟨0, 0⟩
  content := {
    subject := [[⟨[0x55, 4, 3], ⟨0x0C, "plant".toUTF8.toList⟩⟩]]
    notBefore := .mk 157766400 0
    notAfter := .mk 67090118400 0
    publicKey := ⟨X509.ecPublicKey, Key.Curve.p256.publicPoint 1⟩ }
  certificate?_der := by decide +kernel

def identity : Identity where
  certificate := certificate
  privateKey := ⟨Key.pkcs8 1, Key.Curve.p256.publicPoint 1, by decide +kernel⟩
  key_matches := rfl

/-- A server with one endpoint and some copies of the certificate as its chain. -/
def server (copies : Nat) : ServerContext where
  kind := .opcTcp
  listenAddress := "127.0.0.1:4840"
  hostName := "plant"
  application := {}
  security := ({ kind := .opcTcp } : TransportSecurity).setIdentity identity
    (List.replicate copies certificate)
  offers := [⟨.none, .none⟩]
  tokenPolicies := []
  limits := {}

theorem length_certificate : certificate.der.length = 326 := by
  decide +kernel

end Plant

end OpcUa.ServerContext
