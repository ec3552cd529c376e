import OpcUa.Proofs.Der.Written
import OpcUa.Proofs.Server.Advertised
import OpcUa.Proofs.Text.Armour

/-!
# Armoured certificates

A certificate is decoded again from its armour, which is longer than its encoding and has to be
within the limit all the same. So there are certificates that are decoded from their encoding alone.
-/

namespace OpcUa.Certificate

/-- The size of a certificate in armour: four characters for three bytes, a line feed for 64
characters, and two lines around. -/
def armouredSize (size : Nat) : Nat :=
  54 + 4 * ((size + 2) / 3) + (4 * ((size + 2) / 3) + 63) / 64

theorem length_armoured (c : Certificate) :
    c.armoured.toUTF8.toList.length = armouredSize c.der.length :=
  Armour.length_encode (by decide) c.der

theorem armouredSize_le_iff {size : Nat} : armouredSize size ≤ sizeLimit ↔ size ≤ 48354 := by
  rw [armouredSize, sizeLimit]
  omega

theorem decode_armoured (c : Certificate) : decode c.armoured.toUTF8.toList =
    if c.der.length ≤ 48354 then .ok c
    else .error (.certificateTooLarge (armouredSize c.der.length) sizeLimit) := by
  have found : Armour.firstBlock? c.armoured.toUTF8.toList = some ⟨label, c.der⟩ :=
    Armour.firstBlock?_encode (by decide) (by decide) c.der
  unfold decode
  rw [length_armoured, found, armoured, Armour.isArmoured_encode]
  by_cases fits : c.der.length ≤ 48354
  · rw [if_neg (Nat.not_lt.mpr (armouredSize_le_iff.mpr fits)), if_pos fits, if_pos rfl]
    exact (if_pos rfl).trans c.ofDer_der
  · rw [if_pos (Nat.lt_of_not_le (mt armouredSize_le_iff.mp fits)), if_neg fits]

theorem Carries.length_le {bytes input : List UInt8} (carried : Carries bytes input) :
    input.length ≤ bytes.length := by
  cases carried with
  | bare plain => exact Nat.le_refl _
  | block armoured found labelled => exact Armour.length_of_firstBlock? found

theorem length_of_decode {bytes : List UInt8} {c : Certificate} (decoded : decode bytes = .ok c) :
    c.der.length ≤ sizeLimit := by
  obtain ⟨within, input, carried, leads⟩ := decode_eq_ok_iff.mp decoded
  exact Nat.le_trans leads.length_le (Nat.le_trans carried.length_le within)

/-- A certificate that has been decoded is decoded again from its encoding. From its armour it is
decoded again if it has at most 48354 bytes, and is refused as too large otherwise. -/
theorem saved_of_decoded {bytes : List UInt8} {c : Certificate} (decoded : decode bytes = .ok c) :
    decode c.der = .ok c ∧ decode c.armoured.toUTF8.toList =
      if c.der.length ≤ 48354 then .ok c
      else .error (.certificateTooLarge (armouredSize c.der.length) sizeLimit) := by
  have fits : c.der.length ≤ sizeLimit := length_of_decode decoded
  exact ⟨decode_der fits, c.decode_armoured⟩

/-- The certificate of a plant is decoded again from both. -/
theorem saved_of_decoded_plant :
    let c := ServerContext.Plant.certificate
    decode (c.der ++ [0]) = .ok c ∧ decode c.der = .ok c ∧
      decode c.armoured.toUTF8.toList = .ok c := by
  intro c
  have size : c.der.length = 326 := ServerContext.Plant.length_certificate
  have decoded : decode (c.der ++ [0]) = .ok c := by
    rw [c.decode_append, List.length_append, size, if_pos (by decide)]
  obtain ⟨plain, armoured⟩ := saved_of_decoded decoded
  rw [size, if_pos (by decide)] at armoured
  exact ⟨decoded, plain, armoured⟩

namespace PostQuantum

/-- The signature algorithm with the longest signatures: 49856 bytes. -/
def slhDsa : List UInt8 :=
  Der.sequenceOf [[0x06, 9, 0x60, 0x86, 0x48, 1, 0x65, 3, 4, 3, 25]]

/-- The point of the secret 1, uncompressed. -/
def key : List UInt8 :=
  4 :: (Der.numberBytes Key.Curve.p256.generatorX ++ Der.numberBytes Key.Curve.p256.generatorY)

def parts : List (List UInt8) := [
  Der.wrap (Der.context 0) (Der.ofNatural 2).bytes,
  (Der.ofNatural 1).bytes,
  slhDsa,
  X509.commonName "authority",
  X509.longValidity,
  X509.commonName "plant",
  Der.sequenceOf [Der.wrap Der.sequence (Key.curveAlgorithm Key.p256Id),
    Key.bitString key]]

def signedPart : List UInt8 :=
  Der.sequenceOf parts

def content : X509.Content where
  subject := [[⟨[0x55, 4, 3], ⟨0x0C, "plant".toUTF8.toList⟩⟩]]
  notBefore := .mk 157766400 0
  notAfter := .mk 67090118400 0
  publicKey := ⟨X509.ecPublicKey, key⟩

theorem signedPart?_append (more : List UInt8) :
    X509.signedPart? (signedPart ++ more) = some (content, more) := by
  have alone : X509.signedPart? signedPart = some (content, []) := by decide +kernel
  have counted : Der.IsLength parts.flatten.length := by decide +kernel
  have read : Der.expect? Der.sequence signedPart = some (parts.flatten, []) :=
    Der.expect?_wrap (by decide) counted
  have leads : Der.expect? Der.sequence (signedPart ++ more) = some (parts.flatten, more) :=
    Der.leads_wrap (by decide) counted more
  -- What is told of the part has nothing to do with what follows it.
  simpa only [X509.signedPart?, read, leads, Option.bind_eq_bind, Option.bind_eq_some_iff,
    Option.pure_def, Option.some.injEq, exists_eq_left', Prod.mk.injEq, and_true] using alone

theorem algorithm?_append (more : List UInt8) :
    ∃ type, X509.algorithm? (slhDsa ++ more) = some (type, more) := by
  have read : Der.expect? Der.sequence (slhDsa ++ more) = some (_, more) :=
    Der.leads_wrap (by decide) (by decide +kernel) more
  unfold X509.algorithm?
  rw [read]
  exact ⟨_, rfl⟩

/-- The parts of the certificate with these bits for its signature. -/
def elements (bits : List UInt8) : List (List UInt8) :=
  [signedPart, slhDsa, Key.bitString bits]

variable {bits : List UInt8}

theorem bitString?_bitString (counted : Der.IsLength (bits.length + 1)) :
    X509.bitString? Der.bitString (Key.bitString bits) = some (bits, []) := by
  have read : Der.expect? Der.bitString (Key.bitString bits) = some (0 :: bits, []) :=
    Der.expect?_wrap (by decide) counted
  have whole : Der.bits? (0 :: bits) = some bits := by
    rw [Der.bits?]
    cases last : bits.getLast? with
    | none =>
      rw [List.getLast?_eq_none_iff.mp last]
      rfl
    | some b => exact if_pos ⟨by decide, Nat.mod_one _⟩
  simp only [X509.bitString?, read, whole, Option.bind_eq_bind, Option.bind_some, Option.pure_def]

theorem length_elements (full : bits.length = 49856) : (elements bits).flatten.length = 50063 := by
  have first : signedPart.length = 189 := by decide +kernel
  have second : slhDsa.length = 13 := by decide +kernel
  have third : (Key.bitString bits).length = 49861 := by
    rw [Key.bitString, Der.length_wrap, List.length_cons, full]
    decide +kernel
  simp only [elements, List.flatten_cons, List.flatten_nil, List.length_append, first, second,
    third, List.length_nil]

theorem certificate?_elements (full : bits.length = 49856) :
    X509.certificate? (Der.sequenceOf (elements bits)) = some (content, []) := by
  have read : Der.expect? Der.sequence (Der.sequenceOf (elements bits)) =
      some ((elements bits).flatten, []) := by
    refine Der.expect?_wrap (by decide) ?_
    rw [length_elements full]
    decide +kernel
  have certified : X509.certified? (elements bits).flatten = some content := by
    obtain ⟨type, algorithm⟩ := algorithm?_append (Key.bitString bits)
    have counted : Der.IsLength (bits.length + 1) := by
      rw [full]
      decide +kernel
    have whole : (elements bits).flatten = signedPart ++ (slhDsa ++ Key.bitString bits) := by
      simp [elements]
    simp only [X509.certified?, whole, signedPart?_append, algorithm, bitString?_bitString counted,
      Option.bind_eq_bind, Option.bind_some, Option.pure_def]
  simp only [X509.certificate?, read, certified, Option.bind_eq_bind, Option.bind_some,
    Option.pure_def]

def certificate (bits : List UInt8) (full : bits.length = 49856) : Certificate where
  der := Der.sequenceOf (elements bits)
  content := content
  certificate?_der := certificate?_elements full

theorem length_certificate (full : bits.length = 49856) :
    (certificate bits full).der.length = 50067 := by
  show (Der.wrap Der.sequence (elements bits).flatten).length = _
  rw [Der.length_wrap, length_elements full]
  decide +kernel

/-- The certificate is decoded from its encoding and not from its armour. -/
theorem not_saved_of_longSignature :
    ¬ ∀ (bytes : List UInt8) (c : Certificate), decode bytes = .ok c →
      decode c.armoured.toUTF8.toList = .ok c := by
  intro saved
  let c := certificate (List.replicate 49856 0) List.length_replicate
  have size : c.der.length = 50067 := length_certificate _
  have decoded : decode c.der = .ok c := decode_der (by rw [size]; decide)
  have armoured := saved _ c decoded
  rw [decode_armoured, size, if_neg (by decide)] at armoured
  cases armoured

end PostQuantum

end OpcUa.Certificate
