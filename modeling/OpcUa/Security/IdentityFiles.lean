import OpcUa.Files
import OpcUa.Security.Identity

/-!
# Identities in files

A certificate and a key are written as they are encoded, without armour.
-/

namespace OpcUa

variable {m : Type → Type} [Monad m] [FileSystem m]

def Certificate.save (c : Certificate) (path : String) : ExceptT Fault m Unit :=
  FileSystem.save path c.der

def PrivateKey.save (k : PrivateKey) (path : String) : ExceptT Fault m Unit :=
  FileSystem.save path k.der

/-- Writes the certificate and then the key, which is not written if the certificate cannot be. -/
def Identity.save (i : Identity) (certificatePath keyPath : String) : ExceptT Fault m Unit := do
  i.certificate.save certificatePath
  i.privateKey.save keyPath

end OpcUa
