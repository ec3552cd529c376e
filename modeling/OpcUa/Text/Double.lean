/-!
# Numbers as doubles

Which numbers are too large for a double. Nothing else about doubles matters, since no value is one.
-/

namespace OpcUa.Double

/-- The least number that rounds to infinity: the middle between the largest finite double and the
power of two after it. -/
def bound : Nat :=
  (1 <<< 1024) - (1 <<< 970)

/-- The double nearest to `digits` times a power of ten is finite. -/
def isFinite (digits : Nat) (power : Int) : Bool :=
  -- Both numbers that follow are smaller than a thousand bits more than the digits.
  if digits = 0 || (digits.log2 / 3 + 1 : Nat) + power ≤ 308 then true
  else if 400 < power then false
  else if 0 ≤ power then digits * Nat.pow 10 power.toNat < bound
  else digits < bound * Nat.pow 10 (-power).toNat

/-- Rounded to 53 binary digits; from the middle between two such numbers, to the even one. -/
def rounded (n : Nat) : Nat :=
  let unit := 1 <<< (n.log2 - 52)
  let quotient := n / unit
  let rest := n % unit
  if unit < 2 * rest ∨ (unit = 2 * rest ∧ quotient % 2 = 1) then (quotient + 1) * unit
  else quotient * unit

/-- The product of the doubles of `digits` and of a power of ten is finite. Both are rounded before
their product is, so that is not always the double nearest to the number. -/
def isFiniteProduct (digits : Nat) (power : Int) : Bool :=
  if power < 0 || digits = 0 then true
  else power ≤ 308 && rounded digits * rounded (Nat.pow 10 power.toNat) < bound

example : isFinite 17976931348623158 292 ∧ ¬ isFiniteProduct 17976931348623158 292 := by
  decide +kernel

example : ¬ isFinite 179769313486231581 291 ∧ isFiniteProduct 179769313486231581 291 := by
  decide +kernel

end OpcUa.Double
