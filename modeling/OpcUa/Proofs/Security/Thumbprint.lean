import OpcUa.Proofs.Text.Blank
import OpcUa.Proofs.Text.Hex
import OpcUa.Security.Thumbprint

/-!
# Texts of thumbprints

A thumbprint is read from its 64 digits, in either case and with blanks around them, and from
nothing else. It matches its own bytes alone.
-/

namespace OpcUa.Thumbprint

variable {t : Thumbprint} {text : String} {bytes : List UInt8}

theorem ofBytes_eq_ok_iff : ofBytes bytes = .ok t ↔ bytes = t.bytes := by
  unfold ofBytes
  constructor
  · intro made
    split at made <;> cases made
    rfl
  · rintro rfl
    rw [dif_pos t.length_eq]

theorem hasBytes_iff : t.hasBytes bytes = true ↔ bytes = t.bytes := by
  rw [hasBytes, beq_iff_eq, eq_comm]

theorem toList_text (t : Thumbprint) : t.text.toList = t.bytes.flatMap Hex.ofByte :=
  String.toList_ofList

theorem length_text (t : Thumbprint) : t.text.toList.length = 64 := by
  rw [toList_text, Hex.length_flatMap_ofByte, t.length_eq]

/-- A thumbprint is read from its digits in either case. -/
theorem ofText_eq_ok_iff :
    ofText text = .ok t ↔ (Text.trimmed text.toList).map Char.toLower = t.text.toList := by
  rw [toList_text, ← Hex.decode?_eq_some_iff, ofText]
  cases decoded : Hex.decode? (Text.trimmed text.toList) with
  | none => simp
  | some bytes =>
    dsimp only
    rw [ofBytes_eq_ok_iff, Option.some.injEq]

/-- What is written of a thumbprint has no blanks and no capitals. -/
theorem plain_text (t : Thumbprint) :
    ∀ c ∈ t.text.toList, Text.isBlank c = false ∧ c.toLower = c := by
  intro c member
  rw [toList_text] at member
  obtain ⟨b, -, digit⟩ := List.mem_flatMap.mp member
  exact Hex.plain_of_mem_ofByte digit

theorem ofText_text (t : Thumbprint) : ofText t.text = .ok t := by
  have small : t.text.toList.map Char.toLower = t.text.toList.map id :=
    List.map_congr_left fun c member => (t.plain_text c member).2
  rw [ofText_eq_ok_iff, Text.trimmed_of_not_blank fun c member => (t.plain_text c member).1, small,
    List.map_id]

theorem exists_ofText_iff : (∃ t, ofText text = .ok t) ↔
    (Text.trimmed text.toList).length = 64 ∧ ∀ c ∈ Text.trimmed text.toList, Hex.IsDigit c := by
  constructor
  · rintro ⟨t, read⟩
    have spelled := ofText_eq_ok_iff.mp read
    have decoded := Hex.decode?_eq_some_iff.mpr (spelled.trans t.toList_text)
    have length := congrArg List.length spelled
    rw [List.length_map, length_text] at length
    exact ⟨length, (Hex.exists_decode?_iff.mp ⟨_, decoded⟩).2⟩
  · rintro ⟨length, digits⟩
    obtain ⟨bytes, decoded⟩ := Hex.exists_decode?_iff.mpr ⟨by rw [length], digits⟩
    have spelled := Hex.decode?_eq_some_iff.mp decoded
    have twice := congrArg List.length spelled
    rw [List.length_map, Hex.length_flatMap_ofByte, length] at twice
    exact ⟨⟨bytes, by omega⟩, ofText_eq_ok_iff.mpr (spelled.trans (toList_text ⟨bytes, _⟩).symm)⟩

/-- A thumbprint is read back from its text. A text between blanks is read if it is 64 digits of
either case, and what is read has the same text in small letters. A thumbprint matches bytes if they
are its own, which are those that it is made from. -/
theorem texts_and_bytes :
    (∀ t : Thumbprint, ofText t.text = .ok t) ∧
    (∀ text, (∃ t, ofText text = .ok t) ↔ ∃ digits, Text.IsTrimmed text.toList digits ∧
      digits.length = 64 ∧ ∀ c ∈ digits, Hex.IsDigit c) ∧
    (∀ text t, ofText text = .ok t ↔ ∃ digits, Text.IsTrimmed text.toList digits ∧
      t.text = String.ofList (digits.map Char.toLower)) ∧
    ∀ (t : Thumbprint) (bytes : List UInt8),
      (t.hasBytes bytes = true ↔ bytes = t.bytes) ∧ (bytes = t.bytes ↔ ofBytes bytes = .ok t) := by
  simp only [Text.isTrimmed_iff, exists_eq_left]
  refine ⟨ofText_text, fun text => exists_ofText_iff, fun text t => ?_, fun t bytes => ?_⟩
  · rw [ofText_eq_ok_iff, String.ext_iff, String.toList_ofList, eq_comm]
  · exact ⟨hasBytes_iff, ofBytes_eq_ok_iff.symm⟩

end OpcUa.Thumbprint
