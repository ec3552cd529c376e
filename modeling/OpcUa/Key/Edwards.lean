import OpcUa.Bytes
import OpcUa.Der.Element
import OpcUa.Digest.Sha512
import OpcUa.Key.Number

/-!
# Ed25519 keys

A key is a seed of 32 bytes. Half of the seed's digest gives a secret number, and the public half is
that multiple of the base point on the curve `y² - x² = 1 + d x² y²`. A point is held as a fraction:
`x / z` and `y / z` are its coordinates.
-/

namespace OpcUa.Key.Edwards

def prime : Nat := (1 <<< 255) - 19

/-- The `d` of the curve. -/
def coefficient : Nat :=
  37095705934669439343138083508754565189542113879843219016388785533085940283555

structure Point where
  x : Nat
  y : Nat
  z : Nat

namespace Point

def neutral : Point := ⟨0, 1, 1⟩

def base : Point where
  x := 15112221349535400772501151409588531511454012693041857206046113283949847762202
  y := 46316835694926478169428394003475163141307993866256225615783033603165251855960
  z := 1

/-- The sum, for equal points and for the neutral one as for any others: `d` is no square. -/
def add (a b : Point) : Point :=
  let z := a.z * b.z % prime
  let x := a.x * b.x % prime
  let y := a.y * b.y % prime
  let cross := (a.x * b.y + a.y * b.x) % prime
  let square := z * z % prime
  let skew := coefficient * x % prime * y % prime
  let more := square + skew
  let less := square + (prime - skew)
  ⟨z * cross % prime * less % prime, z * (x + y) % prime * more % prime, less * more % prime⟩

/-- `k` times the base point, by the bits of `k` from the top. -/
def multiple (k : Nat) : Point :=
  (List.range 255).reverse.foldl
    (fun a i => if k.testBit i then ((a.add a).add base) else a.add a) neutral

/-- The second coordinate, the low byte first, and in the top bit whether the first one is odd. -/
def bytes (a : Point) : List UInt8 :=
  let inverse := inverseMod prime a.z
  let x := a.x * inverse % prime
  let y := a.y * inverse % prime
  (fixedBytes 32 (y + (x % 2) <<< 255)).reverse

end Point

/-- The secret number of a seed: a multiple of eight with its top bit set. -/
def secret (seed : List UInt8) : Nat :=
  let half := Der.number ((Sha512.digest seed).take 32).reverse
  (1 <<< 254) + half % (1 <<< 254) / 8 * 8

/-- The public half of a seed. -/
def publicKey (seed : List UInt8) : List UInt8 :=
  (Point.multiple (secret seed)).bytes

theorem length_publicKey (seed : List UInt8) : (publicKey seed).length = 32 := by
  rw [publicKey, Point.bytes, List.length_reverse, length_fixedBytes]

example :
    publicKey (fixedBytes 32 0x9d61b19deffd5a60ba844af492ec2cc44449c5697b326919703bac031cae7f60) =
      fixedBytes 32 0xd75a980182b10ab7d54bfed3c964073a0ee172f3daa62325af021a68f707511a := by
  decide +kernel

end OpcUa.Key.Edwards
