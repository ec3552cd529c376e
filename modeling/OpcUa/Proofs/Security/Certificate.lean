import OpcUa.Proofs.Text.Utf8
import OpcUa.Security.Certificate
import Mathlib.Tactic.SplitIfs

/-!
# Decoded certificates

A certificate is its encoding, and is decoded from any bytes that begin with it, bare or in armour, as
long as all of that is within the limit.
-/

namespace OpcUa.Certificate

theorem leads (c : Certificate) : Der.Leads X509.certificate? c.der c.content := by
  obtain ⟨lead, whole, leads⟩ := X509.certificate?_isLocal c.certificate?_der
  rw [whole, List.append_nil]
  exact leads

theorem eq_of_der {a b : Certificate} (same : a.der = b.der) : a = b := by
  obtain ⟨der, content, reads⟩ := a
  obtain ⟨der', content', reads'⟩ := b
  cases same
  cases reads.symm.trans reads'
  rfl

theorem ofDer_append (c : Certificate) (more : List UInt8) : ofDer (c.der ++ more) = .ok c := by
  unfold ofDer
  split
  · rename_i unread
    cases unread.symm.trans (c.leads more)
  · rename_i content rest found
    cases found.symm.trans (c.leads more)
    refine congrArg Except.ok (eq_of_der ?_)
    simp only [List.length_append, Nat.add_sub_cancel, List.take_left]

theorem ofDer_der (c : Certificate) : ofDer c.der = .ok c := by
  have alone := c.ofDer_append []
  rwa [List.append_nil] at alone

theorem ofDer_eq_ok_iff {c : Certificate} {input : List UInt8} :
    ofDer input = .ok c ↔ c.der <+: input := by
  constructor
  · intro read
    unfold ofDer at read
    split at read <;> cases read
    exact List.take_prefix _ _
  · rintro ⟨more, rfl⟩
    exact c.ofDer_append more

/-- Armour begins with a dash, and a certificate with the tag of a sequence. -/
theorem isArmoured_append (c : Certificate) (more : List UInt8) :
    Armour.isArmoured (c.der ++ more) = false := by
  obtain ⟨begins, dash⟩ : ∃ begins, "-----BEGIN".toUTF8.toList = 0x2D :: begins := by
    rw [Text.toList_toUTF8]
    exact ⟨_, rfl⟩
  have head := X509.head?_of_certificate? (c.leads more)
  cases whole : c.der ++ more with
  | nil =>
    rw [whole] at head
    cases head
  | cons first rest =>
    rw [whole] at head
    cases head
    unfold Armour.isArmoured
    rw [dash]
    rfl

/-- The bytes that a certificate is looked for in: those of the first block in armour, or all. -/
inductive Carries (bytes : List UInt8) : List UInt8 → Prop
  | bare (plain : Armour.isArmoured bytes = false) : Carries bytes bytes
  | block {block : Armour.Block} (armoured : Armour.isArmoured bytes = true)
    (found : Armour.firstBlock? bytes = some block) (labelled : block.label = label) :
    Carries bytes block.bytes

theorem decode_eq_ok_iff {c : Certificate} {bytes : List UInt8} :
    decode bytes = .ok c ↔
      bytes.length ≤ sizeLimit ∧ ∃ input, Carries bytes input ∧ c.der <+: input := by
  simp only [← ofDer_eq_ok_iff]
  constructor
  · intro decoded
    unfold decode at decoded
    split_ifs at decoded with fits armoured
    · refine ⟨Nat.le_of_not_lt fits, ?_⟩
      split at decoded
      · cases decoded
      · rename_i block found
        split_ifs at decoded with labelled
        exact ⟨block.bytes, .block armoured found labelled, decoded⟩
    · exact ⟨Nat.le_of_not_lt fits, bytes, .bare (Bool.eq_false_iff.mpr armoured), decoded⟩
  · rintro ⟨within, input, carried, read⟩
    unfold decode
    rw [if_neg (Nat.not_lt.mpr within)]
    cases carried with
    | bare plain => rwa [plain, if_neg Bool.false_ne_true]
    | block armoured found labelled =>
      rw [if_pos armoured, found]
      exact (if_pos labelled).trans read

theorem decode_append (c : Certificate) (more : List UInt8) :
    decode (c.der ++ more) =
      if (c.der ++ more).length ≤ sizeLimit then .ok c
      else .error (.certificateTooLarge (c.der ++ more).length sizeLimit) := by
  unfold decode
  by_cases fits : (c.der ++ more).length ≤ sizeLimit
  · rw [if_neg (Nat.not_lt.mpr fits), if_pos fits, c.isArmoured_append, if_neg Bool.false_ne_true]
    exact c.ofDer_append more
  · rw [if_pos (Nat.lt_of_not_le fits), if_neg fits]

theorem decode_der {c : Certificate} (fits : c.der.length ≤ sizeLimit) :
    decode c.der = .ok c := by
  have alone := c.decode_append []
  rwa [List.append_nil, if_pos fits] at alone

end OpcUa.Certificate
