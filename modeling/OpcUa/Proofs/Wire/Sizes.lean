import OpcUa.Der.Element
import OpcUa.Proofs.Wire.Framing

/-!
# Sizes of frames

A header holds the size of a message in 32 bits, and the limit is compared with that. So the size is
checked and told rightly up to 4 GiB, and beyond only by chance: a message passes there for one that
is shorter by a multiple of 4 GiB.
-/

namespace OpcUa

namespace Frame

/-- A header spells the size, the high byte first. -/
theorem number_header (size : UInt32) : Der.number (header size) = size.toNat := by
  have bounded := size.toNat_lt
  simp [header, Der.number, Nat.shiftRight_eq_div_pow]
  omega

end Frame

namespace Message

/-- Whether the message is written if it is within the limit, after four bytes that spell its
length, and is refused as too large if it is not. -/
structure IsSized (m : Message) (max : UInt32) : Prop where
  written (fits : m.bytes.length ≤ max.toNat) : ∃ header : List UInt8, header.length = 4 ∧
    Der.number header = m.bytes.length ∧ m.write max = .ok (header ++ m.bytes)
  refused (exceeds : max.toNat < m.bytes.length) :
    ∃ size, m.write max = .error (.messageTooLarge size max)

variable (m : Message) (max : UInt32)

theorem write_of_remainder (fits : m.bytes.length % 2 ^ 32 ≤ max.toNat) :
    ∃ header : List UInt8, header.length = 4 ∧
      Der.number header = m.bytes.length % 2 ^ 32 ∧ m.write max = .ok (header ++ m.bytes) := by
  refine ⟨Frame.header (UInt32.ofNat m.bytes.length), rfl, ?_, if_neg ?_⟩
  · rw [Frame.number_header, UInt32.toNat_ofNat']
  · rw [UInt32.lt_iff_toNat_lt, UInt32.toNat_ofNat']
    omega

theorem write_of_remainder_over (exceeds : max.toNat < m.bytes.length % 2 ^ 32) :
    ∃ size, m.write max = .error (.messageTooLarge size max) := by
  refine ⟨_, if_pos ?_⟩
  rwa [UInt32.lt_iff_toNat_lt, UInt32.toNat_ofNat']

/-- The check is right for a message shorter than 4 GiB, and for a longer one just when what is left
of its length in 32 bits goes over the limit as well. Otherwise the message is written whole, after
a header that spells no more than what is left of its length. -/
theorem isSized_iff : (m.IsSized max ↔
      m.bytes.length < 2 ^ 32 ∨ max.toNat < m.bytes.length % 2 ^ 32) ∧
    (m.IsSized max ∨ 2 ^ 32 ≤ m.bytes.length ∧ ∃ header : List UInt8, header.length = 4 ∧
      Der.number header = m.bytes.length % 2 ^ 32 ∧ m.write max = .ok (header ++ m.bytes)) := by
  have bounded := max.toNat_lt
  have sized (right : m.bytes.length < 2 ^ 32 ∨ max.toNat < m.bytes.length % 2 ^ 32) :
      m.IsSized max := by
    constructor
    · intro fits
      have same : m.bytes.length % 2 ^ 32 = m.bytes.length := Nat.mod_eq_of_lt (by omega)
      have found := m.write_of_remainder max (by omega)
      rwa [same] at found
    · intro exceeds
      refine m.write_of_remainder_over max ?_
      rcases right with short | exceeds
      · rwa [Nat.mod_eq_of_lt short]
      · exact exceeds
  rcases Nat.lt_or_ge m.bytes.length (2 ^ 32) with short | long
  · exact ⟨iff_of_true (sized (.inl short)) (.inl short), .inl (sized (.inl short))⟩
  · rcases Nat.lt_or_ge max.toNat (m.bytes.length % 2 ^ 32) with exceeds | fits
    · exact ⟨iff_of_true (sized (.inr exceeds)) (.inr exceeds), .inl (sized (.inr exceeds))⟩
    · -- The message is refused for its length if the check is right, and written for what is left.
      have written := m.write_of_remainder max fits
      refine ⟨iff_of_false (fun right => ?_) (by omega), .inr ⟨long, written⟩⟩
      obtain ⟨size, refused⟩ := right.refused (by omega)
      obtain ⟨header, -, -, found⟩ := written
      cases refused.symm.trans found

/-- A ping with an id of so many letters. -/
def longPing (letters : Nat) : Message :=
  ⟨String.ofList (List.replicate letters 'a'), .request .ping⟩

theorem length_longPing (letters : Nat) : (longPing letters).bytes.length = 42 + letters := by
  have id : Json.quoted (longPing letters).id = '"' :: (List.replicate letters 'a' ++ ['"']) := by
    have plain : Json.escaped 'a' = ['a'] := by decide
    rw [Json.quoted, longPing, String.toList_ofList, List.flatMap_replicate, plain,
      List.flatten_replicate_singleton]
  have ascii : Text.utf8 (List.replicate letters 'a') = List.replicate letters 97 := by
    rw [Text.utf8_of_ascii fun c among => by rw [List.eq_of_mem_replicate among]; decide,
      List.map_replicate]
    rfl
  let before := "\x7b\"id\":\"".toList
  let after := "\",\"type\":\"request\",\"method\":\"ping\"\x7d".toList
  have spelled : (longPing letters).toJson.chars =
      before ++ (List.replicate letters 'a' ++ after) := by
    show '\x7b' :: (Json.quoted "id" ++ ':' :: (Json.quoted (longPing letters).id ++ _)) = _
    rw [id, List.cons_append, List.append_assoc]
    rfl
  have around : (Text.utf8 before).length = 7 ∧ (Text.utf8 after).length = 35 := by decide
  rw [bytes, Json.bytes_eq_utf8, spelled, Text.utf8_append, Text.utf8_append, ascii,
    List.length_append, List.length_append, List.length_replicate]
  omega

/-- A ping of 4 GiB is written after a header that spells zero. -/
theorem not_isSized_of_longPing : ¬ ∀ (m : Message) (max : UInt32), m.IsSized max := by
  intro sized
  have size : (longPing (2 ^ 32 - 42)).bytes.length = 2 ^ 32 := by
    rw [length_longPing, Nat.add_sub_cancel' (by decide)]
  obtain ⟨_, refused⟩ := (sized (longPing (2 ^ 32 - 42)) 4194240).refused (by rw [size]; decide)
  obtain ⟨header, -, -, written⟩ :=
    write_of_remainder (longPing (2 ^ 32 - 42)) 4194240 (by rw [size]; decide)
  cases refused.symm.trans written

end Message

end OpcUa
