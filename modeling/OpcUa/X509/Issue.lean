import OpcUa.Key.Signing

/-!
# Issuing certificates

A certificate that its own key signs, for a host and an application's URI.
-/

namespace OpcUa.X509

/-- What is drawn at random for a certificate and its key. -/
structure Draw where
  secret : Nat
  nonce : Nat

namespace Draw

/-- The secret number of the key. -/
def key (d : Draw) : Nat :=
  Key.Curve.p256.scalar d.secret

/-- The nonce of the signature. -/
def once (d : Draw) : Nat :=
  Key.Curve.p256.scalar d.nonce

end Draw

def ecdsaWithSha256 : List UInt8 :=
  Der.sequenceOf [[0x06, 8, 0x2A, 0x86, 0x48, 0xCE, 0x3D, 4, 3, 2]]

/-- A name of one attribute, the common name. -/
def commonName (name : String) : List UInt8 :=
  Der.sequenceOf [Der.wrap Der.set (Der.sequenceOf [
    [0x06, 3, 0x55, 4, 3], Der.wrap 0x0C name.toUTF8.toList])]

/-- From 1975 to 4096. -/
def longValidity : List UInt8 :=
  Der.sequenceOf [
    Der.wrap Der.utcTime "750101000000Z".toUTF8.toList,
    Der.wrap Der.generalizedTime "40960101000000Z".toUTF8.toList]

/-- The extension that names a host and a URI. -/
def alternativeNames (host uri : String) : List UInt8 :=
  Der.sequenceOf [
    [0x06, 3, 0x55, 0x1D, 0x11],
    Der.wrap Der.octetString (Der.sequenceOf [
      Der.wrap 0x82 host.toUTF8.toList, Der.wrap 0x86 uri.toUTF8.toList])]

/-- A serial number that follows from the key. -/
def serialOf (publicPoint : List UInt8) : List UInt8 :=
  (Der.ofNatural (Der.number ((Sha256.digest publicPoint).take 20) % 1 <<< 159)).bytes

/-- The part that is signed. -/
def toBeSigned (subject host uri : String) (publicPoint : List UInt8) : List UInt8 :=
  Der.sequenceOf [
    Der.wrap (Der.context 0) (Der.ofNatural 2).bytes,
    serialOf publicPoint,
    ecdsaWithSha256,
    commonName subject,
    longValidity,
    commonName subject,
    Der.sequenceOf [
      Der.wrap Der.sequence (Key.curveAlgorithm Key.p256Id), Key.bitString publicPoint],
    Der.wrap (Der.context 3) (Der.sequenceOf [alternativeNames host uri])]

/-- The certificate. -/
def selfSigned (subject host uri : String) (d : Draw) : List UInt8 :=
  let signed := toBeSigned subject host uri (Key.Curve.p256.publicPoint d.key)
  Der.sequenceOf [
    signed, ecdsaWithSha256, Key.bitString (Key.signature d.key d.once signed)]

end OpcUa.X509
