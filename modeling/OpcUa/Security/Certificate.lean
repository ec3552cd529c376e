import OpcUa.Armour
import OpcUa.Security.Thumbprint
import OpcUa.X509.Certificate

/-!
# Certificates

A certificate that has been decoded, with what its encoding tells. Two certificates are the same when
their encodings are.
-/

namespace OpcUa

structure Certificate where
  /-- The encoding, without anything that came after it. -/
  der : List UInt8
  content : X509.Content
  certificate?_der : X509.certificate? der = some (content, [])
  deriving Repr

namespace Certificate

def subject (c : Certificate) : String :=
  X509.nameText c.content.subject

def notBefore (c : Certificate) : Instant :=
  c.content.notBefore

def notAfter (c : Certificate) : Instant :=
  c.content.notAfter

/-- The bits of the public key as the certificate holds them. -/
def publicKey (c : Certificate) : List UInt8 :=
  c.content.publicKey.key

/-- Zero for an algorithm that is not known. -/
def keyBits (c : Certificate) : Nat :=
  c.content.publicKey.bits

instance : BEq Certificate :=
  ⟨fun a b => a.der == b.der⟩

/-- The largest input that is looked at, in bytes. -/
def sizeLimit : Nat := 64 * 1024

def label : String := "CERTIFICATE"

def thumbprint (c : Certificate) : Thumbprint :=
  .of c.der

/-- What a hasher in `state` makes of the certificate: it is told the thumbprint and nothing else. -/
def hashInto {σ : Type} (write : σ → Thumbprint → σ) (state : σ) (c : Certificate) : σ :=
  write state c.thumbprint

/-- The certificate that starts the input. -/
def ofDer (input : List UInt8) : Except Fault Certificate :=
  match found : X509.certificate? input with
  | none => .error .certificateUnreadable
  | some (content, rest) =>
    .ok {
      der := input.take (input.length - rest.length)
      content
      certificate?_der := X509.certificate?_take found }

/-- The certificate in a file's bytes, with or without armour. Its times are not looked at. -/
def decode (bytes : List UInt8) : Except Fault Certificate :=
  if sizeLimit < bytes.length then .error (.certificateTooLarge bytes.length sizeLimit)
  else if Armour.isArmoured bytes then
    match Armour.firstBlock? bytes with
    | none => .error .armourUnreadable
    | some block =>
      if block.label = label then ofDer block.bytes
      else .error (.armourLabel label block.label)
  else ofDer bytes

/-- Both ends of the window are inside. -/
def checkValidity (c : Certificate) (now : Instant) : Except Fault Unit :=
  if now.before c.notBefore then .error (.notYetValid c.subject c.notBefore)
  else if c.notAfter.before now then .error (.expired c.subject c.notAfter)
  else .ok ()

def isValidAt (c : Certificate) (now : Instant) : Bool :=
  (c.checkValidity now).isOk

/-- The certificate in a file's bytes, if it is valid now. -/
def load (now : Instant) (bytes : List UInt8) : Except Fault Certificate := do
  let c ← decode bytes
  c.checkValidity now
  return c

/-- The certificate in armour. -/
def armoured (c : Certificate) : String :=
  Armour.encode label c.der

end Certificate

end OpcUa
