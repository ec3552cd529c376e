import OpcUa.Proofs.Security.Armoured

/-!
# Certificates that are the same

What a certificate tells is settled by its encoding, and this begins the bytes that it was decoded
from, bare or in armour. So two certificates with one encoding have all in common, and a hasher that
is told their thumbprints cannot tell them apart.
-/

namespace OpcUa.Certificate

variable {a b c : Certificate} {bytes : List UInt8}

/-- Whether two certificates tell the same. -/
structure TellsSame (a b : Certificate) : Prop where
  der : a.der = b.der
  thumbprint : a.thumbprint = b.thumbprint
  subject : a.subject = b.subject
  notBefore : a.notBefore = b.notBefore
  notAfter : a.notAfter = b.notAfter
  publicKey : a.publicKey = b.publicKey
  keyBits : a.keyBits = b.keyBits

theorem TellsSame.of_der (same : a.der = b.der) : TellsSame a b := by
  cases eq_of_der same
  exact ⟨rfl, rfl, rfl, rfl, rfl, rfl, rfl⟩

theorem beq_iff : (a == b) = true ↔ a.der = b.der :=
  @beq_iff_eq _ _ _ a.der b.der

theorem beq_iff_tellsSame : (a == b) = true ↔ TellsSame a b :=
  beq_iff.trans ⟨TellsSame.of_der, TellsSame.der⟩

theorem decode_of_prefix (begins : c.der <+: bytes) (fits : bytes.length ≤ sizeLimit) :
    decode bytes = .ok c := by
  obtain ⟨more, rfl⟩ := begins
  rw [decode_append, if_pos fits]

/-- The encoding of a certificate begins the bytes that it was decoded from, and whatever begins
with it is decoded to a certificate that tells the same. -/
theorem determined_by_der (decoded : decode bytes = .ok c) :
    (∃ input, Carries bytes input ∧ c.der <+: input) ∧
    (∀ more, (c.der ++ more).length ≤ 65536 →
      ∃ again, decode (c.der ++ more) = .ok again ∧ TellsSame again c) ∧
    c.thumbprint.bytes = Sha256.digest c.der ∧
    ∀ others other, decode others = .ok other →
      ((c == other) = true ↔ TellsSame c other) ∧
      ((c == other) = true → ∀ (σ : Type) (write : σ → Thumbprint → σ) (state : σ),
        c.hashInto write state = other.hashInto write state) := by
  obtain ⟨-, carried⟩ := decode_eq_ok_iff.mp decoded
  refine ⟨carried, fun more fits => ?_, rfl, fun others other _ => ⟨beq_iff_tellsSame, ?_⟩⟩
  · have again : decode (c.der ++ more) = .ok c :=
      decode_of_prefix (List.prefix_append c.der more) fits
    exact ⟨c, again, .of_der rfl⟩
  · intro same σ write state
    have alike := beq_iff_tellsSame.mp same
    exact congrArg (write state) alike.thumbprint

/-- The certificate of a plant, from its armour and with a byte after it. -/
theorem determined_by_der_plant :
    let c := ServerContext.Plant.certificate
    let pem := c.armoured.toUTF8.toList
    decode pem = .ok c ∧ decode (c.der ++ [0]) = .ok c ∧
      (∃ input, Carries pem input ∧ c.der <+: input) ∧
      (∃ again, decode (c.der ++ [0]) = .ok again ∧ TellsSame again c) ∧
      ((c == c) = true ↔ TellsSame c c) := by
  intro c pem
  have size : c.der.length = 326 := ServerContext.Plant.length_certificate
  have armoured : decode pem = .ok c := by
    rw [c.decode_armoured, size, if_pos (by decide)]
  have longer : (c.der ++ [0]).length ≤ 65536 := by
    rw [List.length_append, size]
    decide
  have followed : decode (c.der ++ [0]) = .ok c :=
    decode_of_prefix (List.prefix_append _ _) longer
  obtain ⟨carried, again, -, alike⟩ := determined_by_der armoured
  exact ⟨armoured, followed, carried, again [0] longer, (alike _ c followed).1⟩

end OpcUa.Certificate
