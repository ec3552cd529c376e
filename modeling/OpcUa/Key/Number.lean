/-!
# Numbers of keys

Arithmetic under a modulus.
-/

namespace OpcUa.Key

/-- The power of a number under a modulus. -/
def powerMod (modulus base exponent : Nat) : Nat :=
  ((List.range (exponent.log2 + 1)).reverse.foldl (fun power i =>
    let square := power * power % modulus
    if exponent.testBit i then square * base % modulus else square) 1) % modulus

/-- The inverse of a number that is no multiple of a prime modulus. -/
def inverseMod (modulus n : Nat) : Nat :=
  powerMod modulus n (modulus - 2)

end OpcUa.Key
