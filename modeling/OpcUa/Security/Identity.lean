import OpcUa.Security.Certificate
import OpcUa.Security.PrivateKey
import OpcUa.Text.Quoted

/-!
# Identities

A certificate together with the private key that belongs to it. Two identities are the same when
their certificates are.
-/

namespace OpcUa

namespace Certificate

def debugText (c : Certificate) : String :=
  "Certificate \x7b subject: " ++ Text.quoted c.subject ++ ", thumbprint: " ++
    c.thumbprint.debugText ++ ", not_after: " ++ c.notAfter.text ++ " \x7d"

end Certificate

structure Identity where
  certificate : Certificate
  privateKey : PrivateKey
  key_matches : certificate.publicKey = privateKey.publicKey

namespace Identity

instance : BEq Identity :=
  ⟨fun a b => a.certificate == b.certificate⟩

def of (certificate : Certificate) (privateKey : PrivateKey) : Except Fault Identity :=
  if key_matches : certificate.publicKey = privateKey.publicKey then
    .ok { certificate, privateKey, key_matches }
  else .error (.keyForeign certificate.subject)

/-- The identity in two files' bytes. The certificate has to be valid now. -/
def load (now : Instant) (certificate key : List UInt8) : Except Fault Identity := do
  let certificate ← Certificate.load now certificate
  of certificate (← PrivateKey.load key)

def thumbprint (i : Identity) : Thumbprint :=
  i.certificate.thumbprint

/-- Whether the bytes are the thumbprint. -/
def hasThumbprint (i : Identity) (bytes : List UInt8) : Bool :=
  i.thumbprint.hasBytes bytes

def subject (i : Identity) : String :=
  i.certificate.subject

def debugText (i : Identity) : String :=
  "Identity \x7b certificate: " ++ i.certificate.debugText ++ ", .. \x7d"

end Identity

end OpcUa
