import OpcUa.Der.Element
import OpcUa.Key.Curve
import OpcUa.Key.Edwards

/-!
# PKCS#8 keys

A private key with its algorithm: Ed25519, one of two curves with points over a prime field, or RSA
with two primes. All is read in its shortest form and has to be consistent, so that the public half
can be told from the key. The second version of such a file adds the public half; only an Ed25519
key is read from it.
-/

namespace OpcUa.Key

/-- The algorithm of a key on a curve, as it stands in a PKCS#8 key. -/
def curveAlgorithm (curve : List UInt8) : List UInt8 :=
  [0x06, 7, 0x2A, 0x86, 0x48, 0xCE, 0x3D, 2, 1] ++ curve

/-- The object ids of the curves, as elements. -/
def curves : List (List UInt8 × Curve) := [
  ([0x06, 8, 0x2A, 0x86, 0x48, 0xCE, 0x3D, 3, 1, 7], .p256),
  ([0x06, 5, 0x2B, 0x81, 4, 0, 0x22], .p384)]

/-- The algorithm of an Ed25519 key, as it stands in a PKCS#8 key. -/
def edwardsAlgorithm : List UInt8 :=
  [0x06, 3, 0x2B, 0x65, 0x70]

/-- The algorithm of an RSA key, as it stands in a PKCS#8 key. -/
def rsaAlgorithm : List UInt8 :=
  [0x06, 9, 0x2A, 0x86, 0x48, 0x86, 0xF7, 0x0D, 1, 1, 1, 0x05, 0]

/-! ### Curves -/

/-- The public point that a key on the curve carries, if it is the one that belongs to the key. -/
def curvePublicKey? (id : List UInt8) (curve : Curve) (key : List UInt8) : Option (List UInt8) := do
  let content ← Der.whole? Der.sequence key
  let (1, content) ← Der.natural? content | none
  let (secret, content) ← Der.minimal? Der.octetString content
  let content ← match Der.minimal? (Der.context 0) content with
    | some (named, rest) => if named = id then some rest else none
    | none => some content
  let bits ← Der.whole? (Der.context 1) content
  let 0 :: point ← Der.whole? Der.bitString bits | none
  let k := Der.number secret
  let coordinates := point.drop 1
  if secret.length = curve.width ∧ 0 < k ∧ k < curve.order ∧ point.head? = some 4 ∧
      coordinates.length = 2 * curve.width ∧
      curve.hasCoordinates (curve.multiple k) (Der.number (coordinates.take curve.width))
        (Der.number (coordinates.drop curve.width)) then some point
  else none

/-! ### RSA -/

structure RsaKey where
  modulus : Nat
  publicExponent : Nat
  privateExponent : Nat
  p : Nat
  q : Nat
  exponentP : Nat
  exponentQ : Nat
  coefficient : Nat

namespace RsaKey

def isOdd (n : Nat) : Bool :=
  n % 2 == 1

/-- Two primes of one size, the first one larger, of 1024, 1536 or 2048 bits, make up the modulus,
and the exponents and the coefficient are in range. -/
def isConsistent (k : RsaKey) : Bool :=
  let half := k.p.log2 + 1
  (half == 1024 || half == 1536 || half == 2048) && k.q.log2 + 1 == half && k.q < k.p &&
  isOdd k.p && isOdd k.q && k.p * k.q == k.modulus && k.modulus.log2 + 1 == 2 * half &&
  65537 ≤ k.publicExponent && k.publicExponent < 1 <<< 33 && isOdd k.publicExponent &&
  1 <<< half < k.privateExponent && k.privateExponent < k.modulus && isOdd k.privateExponent &&
  k.exponentP < k.p && isOdd k.exponentP && k.exponentQ < k.q && isOdd k.exponentQ &&
  k.coefficient < k.p && k.q * k.coefficient % k.p == 1

def ofContent? (content : List UInt8) : Option RsaKey := do
  let (0, content) ← Der.natural? content | none
  let (modulus, content) ← Der.natural? content
  let (publicExponent, content) ← Der.natural? content
  let (privateExponent, content) ← Der.natural? content
  let (p, content) ← Der.natural? content
  let (q, content) ← Der.natural? content
  let (exponentP, content) ← Der.natural? content
  let (exponentQ, content) ← Der.natural? content
  let (coefficient, []) ← Der.natural? content | none
  return {
    modulus, publicExponent, privateExponent, p, q, exponentP, exponentQ, coefficient }

/-- Modulus and public exponent. -/
def publicKey (k : RsaKey) : List UInt8 :=
  Der.sequenceOf [(Der.ofNatural k.modulus).bytes, (Der.ofNatural k.publicExponent).bytes]

end RsaKey

def rsaPublicKey? (key : List UInt8) : Option (List UInt8) := do
  let k ← RsaKey.ofContent? (← Der.whole? Der.sequence key)
  if k.isConsistent then some k.publicKey else none

/-! ### Ed25519 -/

/-- The public half of the seed that the key wraps. A public half beside it has to be the same. -/
def edwardsPublicKey? (key : List UInt8) (stated? : Option (List UInt8)) : Option (List UInt8) := do
  let seed ← Der.whole? Der.octetString key
  let publicKey := Edwards.publicKey seed
  if seed.length = 32 ∧ stated?.getD publicKey = publicKey then some publicKey else none

/-! ### Keys of any kind -/

/-- What a file holds of a key. -/
structure Wrapped where
  algorithm : List UInt8
  key : List UInt8
  /-- The public half, in a file of the second version. -/
  stated? : Option (List UInt8)

/-- The tag of a public half: bits in the context, with the number 1. -/
def publicTag : UInt8 := 0x81

/-- The public half that the input is: bits under their own tag or, as older files have it, an
element of bits inside the tag. -/
def stated? (input : List UInt8) : Option (List UInt8) := do
  let bits ← if input.head? = some (Der.context 1) then
      Der.whole? Der.bitString (← Der.whole? (Der.context 1) input)
    else Der.whole? publicTag input
  let 0 :: bytes := bits | none
  return bytes

/-- The public half at the end of a file of this version: the first one has none. -/
def statedIn? (version : Nat) (input : List UInt8) : Option (Option (List UInt8)) :=
  match version, input with
  | 0, [] => some none
  | 1, input => (stated? input).map some
  | _, _ => none

/-- The input after any attributes. -/
def skipAttributes? (input : List UInt8) : Option (List UInt8) :=
  if input.head? = some (Der.context 0) then (Der.minimal? (Der.context 0) input).map (·.2)
  else some input

/-- What the file holds. Attributes are passed over. -/
def unwrap? (der : List UInt8) : Option Wrapped := do
  let content ← Der.whole? Der.sequence der
  let (version, content) ← Der.natural? content
  let (algorithm, content) ← Der.minimal? Der.sequence content
  let (key, content) ← Der.minimal? Der.octetString content
  return { algorithm, key, stated? := ← statedIn? version (← skipAttributes? content) }

/-- The public half of a PKCS#8 key. -/
def publicKey? (der : List UInt8) : Option (List UInt8) := do
  let wrapped ← unwrap? der
  if wrapped.algorithm = edwardsAlgorithm then edwardsPublicKey? wrapped.key wrapped.stated?
  else if wrapped.stated?.isSome then none
  else if wrapped.algorithm = rsaAlgorithm then rsaPublicKey? wrapped.key
  else
    let (id, curve) ← curves.find? fun (id, _) => curveAlgorithm id == wrapped.algorithm
    curvePublicKey? id curve wrapped.key

end OpcUa.Key
