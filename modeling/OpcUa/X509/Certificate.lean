import OpcUa.Der.Leading
import OpcUa.Der.Time
import OpcUa.X509.Name

/-!
# X.509 certificates

The grammar of a certificate and the parts of it that matter here. Signatures are not checked, and
bytes after the last part of a sequence are passed over unless they stand where extensions belong.
-/

namespace OpcUa.X509

structure PublicKeyInfo where
  /-- The content of the algorithm's object id. -/
  algorithm : List UInt8
  key : List UInt8
  deriving DecidableEq, Repr

structure Content where
  subject : Name
  notBefore : Instant
  notAfter : Instant
  publicKey : PublicKeyInfo
  deriving DecidableEq, Repr

/-- The object id of an algorithm with any parameters, and the rest. -/
def algorithm? (input : List UInt8) : Option (List UInt8 × List UInt8) := do
  let (content, rest) ← Der.expect? Der.sequence input
  let (type, parameters) ← Der.expect? Der.objectId content
  if parameters.isEmpty || (Der.element? parameters).isSome then some (type, rest) else none

def bitString? (tag : UInt8) (input : List UInt8) : Option (List UInt8 × List UInt8) := do
  let (content, rest) ← Der.expect? tag input
  return (← Der.bits? content, rest)

def publicKeyInfo? (input : List UInt8) : Option (PublicKeyInfo × List UInt8) := do
  let (content, rest) ← Der.expect? Der.sequence input
  let (algorithm, content) ← algorithm? content
  let (key, _) ← bitString? Der.bitString content
  return (⟨algorithm, key⟩, rest)

def validity? (input : List UInt8) : Option ((Instant × Instant) × List UInt8) := do
  let (content, rest) ← Der.expect? Der.sequence input
  let (start, content) ← Der.time? content
  let (stop, _) ← Der.time? content
  return ((start, stop), rest)

/-- The version, if one is given, is a number of 32 bits. -/
def version? (input : List UInt8) : Option (Unit × List UInt8) := do
  let (content, rest) ← Der.maybe? (Der.context 0) input
  match content with
  | none => some ((), rest)
  | some content =>
    let (version, _) ← Der.expect? Der.integer content
    if version.isEmpty || (version.headD 0) ≥ 0x80 || UInt32.size ≤ Der.number version then none
    else some ((), rest)

/-- A unique id of the issuer or the subject, if one is given. -/
def uniqueId? (number : UInt8) (input : List UInt8) : Option (Unit × List UInt8) :=
  let tag := 0x80 ||| number
  if input.head? = some tag then (bitString? tag input).map fun (_, rest) => ((), rest)
  else some ((), input)

def extension? (input : List UInt8) : Option (Unit × List UInt8) := do
  let (content, rest) ← Der.expect? Der.sequence input
  let (_, content) ← Der.expect? Der.objectId content
  let (_, content) ← Der.maybe? Der.boolean content
  let _ ← Der.expect? Der.octetString content
  return ((), rest)

/-- The extensions fill what is left, if anything is. -/
def extensions? (input : List UInt8) : Option Unit :=
  if input.isEmpty then some ()
  else do
    let (content, rest) ← Der.expect? (Der.context 3) input
    let (sequence, after) ← Der.expect? Der.sequence content
    let (_, left) := Der.many extension? sequence.length sequence
    if rest.isEmpty && after.isEmpty && left.isEmpty then some () else none

/-- The part of a certificate that is signed, and the rest. -/
def signedPart? (input : List UInt8) : Option (Content × List UInt8) := do
  let (content, rest) ← Der.expect? Der.sequence input
  let (_, content) ← version? content
  let (_, content) ← Der.expect? Der.integer content
  let (_, content) ← algorithm? content
  let (_, content) ← name? content
  let ((start, stop), content) ← validity? content
  let (subject, content) ← name? content
  let (publicKey, content) ← publicKeyInfo? content
  let (_, content) ← uniqueId? 1 content
  let (_, content) ← uniqueId? 2 content
  extensions? content
  return ({ subject, notBefore := start, notAfter := stop, publicKey }, rest)

/-- What the content of a certificate tells. -/
def certified? (content : List UInt8) : Option Content := do
  let (signed, content) ← signedPart? content
  let (_, content) ← algorithm? content
  let _ ← bitString? Der.bitString content
  return signed

/-- The certificate that starts the input, and the rest. -/
def certificate? (input : List UInt8) : Option (Content × List UInt8) := do
  let (content, rest) ← Der.expect? Der.sequence input
  return (← certified? content, rest)

/-! ### What a certificate is read from -/

theorem certificate?_isLocal : Der.IsLocal certificate? :=
  (Der.expect?_isLocal Der.sequence).within certified?

theorem head?_of_certificate? {input rest : List UInt8} {content : Content}
    (found : certificate? input = some (content, rest)) : input.head? = some Der.sequence := by
  obtain ⟨⟨inside, left⟩, taken, -⟩ := Option.bind_eq_some_iff.mp found
  exact Der.head?_of_expect? taken

/-- The bytes of a certificate are one, without those that come after it. -/
theorem certificate?_take {input rest : List UInt8} {content : Content}
    (found : certificate? input = some (content, rest)) :
    certificate? (input.take (input.length - rest.length)) = some (content, []) := by
  obtain ⟨lead, whole, leads⟩ := certificate?_isLocal found
  have taken : input.take (input.length - rest.length) = lead := by
    rw [whole, List.length_append, Nat.add_sub_cancel, List.take_left]
  rw [taken, ← List.append_nil lead]
  exact leads []

/-! ### Keys -/

def rsaEncryption : List UInt8 := [0x2A, 0x86, 0x48, 0x86, 0xF7, 0x0D, 1, 1, 1]

def ecPublicKey : List UInt8 := [0x2A, 0x86, 0x48, 0xCE, 0x3D, 2, 1]

/-- The bits of an RSA modulus, counted in bytes and without the one that keeps it positive. -/
def modulusBits (key : List UInt8) : Nat :=
  match Der.expect? Der.sequence key with
  | none => 0
  | some (content, _) =>
    match Der.expect? Der.integer content with
    | none => 0
    | some (modulus, rest) =>
      if (Der.expect? Der.integer rest).isNone || modulus.isEmpty || 0x80 ≤ modulus.headD 0 then 0
      else 8 * (modulus.length - 1)

/-- The bits of a coordinate of a point, of which the first byte tells how it is written. -/
def coordinateBits : List UInt8 → Nat
  | [] => 0
  | form :: rest =>
    if form = 4 then 8 * rest.length / 2
    else if form = 2 ∨ form = 3 then 8 * rest.length
    else 0

/-- The size of the key in bits, zero for an algorithm that is not known. -/
def PublicKeyInfo.bits (k : PublicKeyInfo) : Nat :=
  if k.algorithm = rsaEncryption then modulusBits k.key
  else if k.algorithm = ecPublicKey then coordinateBits k.key
  else 0

end OpcUa.X509
