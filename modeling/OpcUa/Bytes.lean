/-!
# Numbers as bytes
-/

namespace OpcUa

/-- A number in a fixed count of bytes, the high one first. -/
def fixedBytes : Nat → Nat → List UInt8
  | 0, _ => []
  | width + 1, n => fixedBytes width (n / 256) ++ [UInt8.ofNat (n % 256)]

theorem length_fixedBytes (width n : Nat) : (fixedBytes width n).length = width := by
  induction width generalizing n with
  | zero => rfl
  | succ width ih => rw [fixedBytes, List.length_append, ih, List.length_singleton]

end OpcUa
