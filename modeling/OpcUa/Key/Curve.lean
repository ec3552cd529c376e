/-!
# Curves over prime fields

Points of a curve `y² = x³ - 3x + b` and multiples of its generator. A point is held as a fraction:
`x / z²` and `y / z³` are its coordinates, and it is the point at infinity when `z` is zero.
-/

namespace OpcUa.Key

structure Curve where
  prime : Nat
  order : Nat
  generatorX : Nat
  generatorY : Nat
  /-- The bytes of a coordinate. -/
  width : Nat

structure CurvePoint where
  x : Nat
  y : Nat
  z : Nat

namespace CurvePoint

def infinity : CurvePoint := ⟨1, 1, 0⟩

end CurvePoint

namespace Curve

def generator (c : Curve) : CurvePoint :=
  ⟨c.generatorX, c.generatorY, 1⟩

/-- The difference in the field. -/
def sub (c : Curve) (a b : Nat) : Nat :=
  (a + (c.prime - b % c.prime)) % c.prime

def double (c : Curve) (a : CurvePoint) : CurvePoint :=
  let zz := a.z * a.z % c.prime
  let yy := a.y * a.y % c.prime
  let s := 4 * a.x * yy % c.prime
  let m := 3 * (c.sub a.x zz) * (a.x + zz) % c.prime
  let x := c.sub (m * m) (2 * s)
  ⟨x, c.sub (m * c.sub s x) (8 * yy * yy), 2 * a.y * a.z % c.prime⟩

def add (c : Curve) (a b : CurvePoint) : CurvePoint :=
  if a.z = 0 then b
  else if b.z = 0 then a
  else
    let zzA := a.z * a.z % c.prime
    let zzB := b.z * b.z % c.prime
    let u := a.x * zzB % c.prime
    let s := a.y * zzB * b.z % c.prime
    let h := c.sub (b.x * zzA) u
    let r := c.sub (b.y * zzA * a.z) s
    if h = 0 then (if r = 0 then c.double a else .infinity)
    else
      let hh := h * h % c.prime
      let hhh := hh * h % c.prime
      let v := u * hh % c.prime
      let x := c.sub (r * r) (hhh + 2 * v)
      ⟨x, c.sub (r * c.sub v x) (s * hhh), a.z * b.z * h % c.prime⟩

/-- `k` times the generator, by the bits of `k` from the top. -/
def multiple (c : Curve) (k : Nat) : CurvePoint :=
  (List.range (8 * c.width)).reverse.foldl
    (fun a i => if k.testBit i then c.add (c.double a) c.generator else c.double a) .infinity

/-- Whether the point has these coordinates. -/
def hasCoordinates (c : Curve) (a : CurvePoint) (x y : Nat) : Bool :=
  let zz := a.z * a.z % c.prime
  a.z != 0 && x < c.prime && y < c.prime &&
    x * zz % c.prime == a.x % c.prime && y * zz * a.z % c.prime == a.y % c.prime

def p256 : Curve where
  prime := 0xffffffff00000001000000000000000000000000ffffffffffffffffffffffff
  order := 0xffffffff00000000ffffffffffffffffbce6faada7179e84f3b9cac2fc632551
  generatorX := 0x6b17d1f2e12c4247f8bce6e563a440f277037d812deb33a0f4a13945d898c296
  generatorY := 0x4fe342e2fe1a7f9b8ee7eb4a7c0f9e162bce33576b315ececbb6406837bf51f5
  width := 32

def p384 : Curve where
  prime :=
    0xfffffffffffffffffffffffffffffffffffffffffffffffffffffffffffffffeffffffff0000000000000000ffffffff
  order :=
    0xffffffffffffffffffffffffffffffffffffffffffffffffc7634d81f4372ddf581a0db248b0a77aecec196accc52973
  generatorX :=
    0xaa87ca22be8b05378eb1c71ef320ad746e1d3b628ba79b9859f741e082542a385502f25dbf55296c3a545e3872760ab7
  generatorY :=
    0x3617de4a96262c6f5d9e98bf9292dc29f8f41dbd289a147ce9da3113b5f0b8c00a60b1ce1d7e819d7a431d7c90ea0e5f
  width := 48

end Curve

end OpcUa.Key
