import Mathlib.Algebra.Group.Nat.Defs
import OpcUa.Der.Leading

/-!
# Elements are read back

An element in its shortest form is read back, with anything after it.
-/

namespace OpcUa.Der

theorem number_concat (bytes : List UInt8) (b : UInt8) :
    number (bytes ++ [b]) = number bytes * 256 + b.toNat :=
  List.foldl_append

theorem number_numberBytes (n : Nat) : number (numberBytes n) = n := by
  fun_induction numberBytes n with
  | case1 => rfl
  | case2 n _ ih =>
    rw [number_concat, ih, UInt8.toNat_ofNat']
    omega

/-- The length of a content that any element can have: the bytes of the length are counted in seven
bits. -/
def IsLength (n : Nat) : Prop :=
  (numberBytes n).length < 127

instance (n : Nat) : Decidable (IsLength n) :=
  inferInstanceAs (Decidable ((numberBytes n).length < 127))

theorem length_numberBytes_le {width n : Nat} (fits : n < 256 ^ width) :
    (numberBytes n).length ≤ width := by
  induction width generalizing n with
  | zero =>
    obtain rfl : n = 0 := Nat.lt_one_iff.mp fits
    rw [numberBytes, if_pos rfl]
    exact Nat.le_refl 0
  | succ width ih =>
    rw [numberBytes]
    split
    · exact Nat.zero_le _
    · have shorter := ih (n := n / 256) (Nat.div_lt_of_lt_mul (by rwa [Nat.mul_comm]))
      rw [List.length_append, List.length_singleton]
      omega

theorem isLength_of_lt {n : Nat} (short : n < 65536) : IsLength n :=
  Nat.lt_of_le_of_lt (length_numberBytes_le (show n < 256 ^ 2 from short)) (by decide)

theorem leads_lengthBytes {n : Nat} (counted : IsLength n) : Leads length? (lengthBytes n) n := by
  intro more
  unfold lengthBytes
  split
  · rename_i short
    have code : (UInt8.ofNat n).toNat = n := by
      rw [UInt8.toNat_ofNat']
      omega
    have small : UInt8.ofNat n < 0x80 := by
      rw [UInt8.lt_iff_toNat_lt, code]
      exact short
    rw [List.singleton_append, length?, if_pos small, code]
  · rename_i long
    have count : 0 < (numberBytes n).length ∧ (numberBytes n).length < 127 := by
      refine ⟨List.length_pos_iff.mpr fun none_left => ?_, counted⟩
      have zero : number (numberBytes n) = 0 := by
        rw [none_left]
        rfl
      rw [number_numberBytes] at zero
      omega
    have code : (UInt8.ofNat (0x80 + (numberBytes n).length)).toNat =
        0x80 + (numberBytes n).length := by
      rw [UInt8.toNat_ofNat']
      omega
    have large : ¬ UInt8.ofNat (0x80 + (numberBytes n).length) < 0x80 := by
      rw [UInt8.lt_iff_toNat_lt, code]
      exact Nat.not_lt.mpr (Nat.le_add_right _ _)
    rw [List.cons_append, length?, if_neg large, code]
    dsimp only
    rw [Nat.add_sub_cancel_left, List.take_left, List.drop_left, number_numberBytes,
      List.length_append]
    exact if_neg (by omega)

theorem length_wrap (tag : UInt8) (content : List UInt8) :
    (wrap tag content).length = 1 + (lengthBytes content.length).length + content.length := by
  show (lengthBytes content.length ++ content).length + 1 = _
  rw [List.length_append]
  omega

theorem leads_wrap {tag : UInt8} (low : tag &&& 0x1F ≠ 0x1F) {content : List UInt8}
    (counted : IsLength content.length) : Leads (expect? tag) (wrap tag content) content := by
  intro more
  have read : element? (wrap tag content ++ more) = some (⟨tag, content⟩, more) := by
    show element? (tag :: (lengthBytes content.length ++ content ++ more)) = _
    rw [element?_cons, afterTag, if_neg low, List.append_assoc, leads_lengthBytes counted,
      Option.bind_some]
    dsimp only
    rw [if_neg (by simp), List.take_left, List.drop_left]
  unfold expect?
  rw [read]
  exact if_pos rfl

theorem expect?_wrap {tag : UInt8} (low : tag &&& 0x1F ≠ 0x1F) {content : List UInt8}
    (counted : IsLength content.length) : expect? tag (wrap tag content) = some (content, []) := by
  have alone := leads_wrap low counted []
  rwa [List.append_nil] at alone

/-! ### The shortest form -/

section Shortest

variable {tag : UInt8} {content : List UInt8}

theorem leads_minimal? (low : tag &&& 0x1F ≠ 0x1F) (short : content.length < 65536) :
    Leads (minimal? tag) (wrap tag content) content := by
  intro more
  rw [minimal?, leads_wrap low (isLength_of_lt short)]
  exact if_pos ⟨short, rfl⟩

theorem length_wrap_le (tag : UInt8) (short : content.length < 65536) :
    (wrap tag content).length ≤ content.length + 4 := by
  have counted := length_numberBytes_le (show content.length < 256 ^ 2 from short)
  rw [length_wrap, lengthBytes]
  split
  · rw [List.length_singleton]
    omega
  · rw [List.length_cons]
    omega

theorem whole?_wrap (low : tag &&& 0x1F ≠ 0x1F) (short : content.length < 65536) :
    whole? tag (wrap tag content) = some content := by
  have alone := leads_minimal? low short []
  rw [List.append_nil] at alone
  rw [whole?, alone]

theorem leads_natural? {b : UInt8} (small : b < 0x80) :
    Leads natural? (wrap integer [b]) b.toNat := by
  intro more
  have short : [b].length < 65536 := show 1 < 65536 by decide
  rw [natural?, leads_minimal? (by decide) short]
  exact if_pos small

end Shortest

end OpcUa.Der
