import OpcUa.Bytes
import OpcUa.Digest.Sha256
import OpcUa.Key.Number
import OpcUa.Key.Pkcs8

/-!
# Signing keys

A secret number on the curve P-256: its key file, its public point, and signatures over SHA-256
digests.
-/

namespace OpcUa.Key

/-- The coordinates of a point that is not at infinity. -/
def Curve.coordinates (c : Curve) (a : CurvePoint) : Nat × Nat :=
  let inverse := inverseMod c.prime a.z
  let square := inverse * inverse % c.prime
  (a.x * square % c.prime, a.y * square * inverse % c.prime)

namespace Curve

/-- Any number as one from 1 up to, not including, the order. -/
def scalar (c : Curve) (n : Nat) : Nat :=
  n % (c.order - 1) + 1

/-- The point of a secret number, uncompressed. -/
def publicPoint (c : Curve) (secret : Nat) : List UInt8 :=
  let (x, y) := c.coordinates (c.multiple secret)
  4 :: fixedBytes c.width x ++ fixedBytes c.width y

/-- The two numbers of a signature under a nonce that is used once. -/
def sign (c : Curve) (secret nonce : Nat) (digest : List UInt8) : Nat × Nat :=
  let r := (c.coordinates (c.multiple nonce)).1 % c.order
  (r, inverseMod c.order nonce * (Der.number digest + r * secret) % c.order)

end Curve

def p256Id : List UInt8 :=
  [0x06, 8, 0x2A, 0x86, 0x48, 0xCE, 0x3D, 3, 1, 7]

/-- A bit string without unused bits. -/
def bitString (bytes : List UInt8) : List UInt8 :=
  Der.wrap Der.bitString (0 :: bytes)

/-- The key file of a secret number. -/
def pkcs8 (secret : Nat) : List UInt8 :=
  Der.sequenceOf [
    (Der.ofNatural 0).bytes,
    Der.wrap Der.sequence (curveAlgorithm p256Id),
    Der.wrap Der.octetString (Der.sequenceOf [
      (Der.ofNatural 1).bytes,
      Der.wrap Der.octetString (fixedBytes Curve.p256.width secret),
      Der.wrap (Der.context 1) (bitString (Curve.p256.publicPoint secret))])]

/-- The signature of a message, as an element. -/
def signature (secret nonce : Nat) (message : List UInt8) : List UInt8 :=
  let (r, s) := Curve.p256.sign secret nonce (Sha256.digest message)
  Der.sequenceOf [(Der.ofNatural r).bytes, (Der.ofNatural s).bytes]

end OpcUa.Key
