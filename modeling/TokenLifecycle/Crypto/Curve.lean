import TokenLifecycle.Crypto.Modular
import TokenLifecycle.Crypto.Octets

/-!
# Elliptic curves in short form

The curves `y ^ 2 = x ^ 3 - 3 x + b` over a prime field that signatures use. Points are computed
with in projective form `(x / z ^ 2, y / z ^ 3)`, where the point at infinity has `z = 0`.
-/

namespace TokenLifecycle.Crypto

/-- A curve with a base point. -/
structure Curve where
  /-- The size of the field. -/
  field : Nat
  b : Nat
  /-- The order of the base point. -/
  order : Nat
  baseX : Nat
  baseY : Nat
  /-- How many bytes a coordinate takes. -/
  width : Nat

namespace Curve

/-- The curve P-256. -/
def p256 : Curve where
  field := Nat.pow 2 256 - Nat.pow 2 224 + Nat.pow 2 192 + Nat.pow 2 96 - 1
  b := 0x5ac635d8aa3a93e7b3ebbd55769886bc651d06b0cc53b0f63bce3c3e27d2604b
  order := 0xffffffff00000000ffffffffffffffffbce6faada7179e84f3b9cac2fc632551
  baseX := 0x6b17d1f2e12c4247f8bce6e563a440f277037d812deb33a0f4a13945d898c296
  baseY := 0x4fe342e2fe1a7f9b8ee7eb4a7c0f9e162bce33576b315ececbb6406837bf51f5
  width := 32

/-- The curve P-384. -/
def p384 : Curve where
  field := Nat.pow 2 384 - Nat.pow 2 128 - Nat.pow 2 96 + Nat.pow 2 32 - 1
  b :=
    0xb3312fa7e23ee7e4988e056be3f82d19181d9c6efe814112 * Nat.pow 2 192 +
      0x0314088f5013875ac656398d8a2ed19d2a85c8edd3ec2aef
  order :=
    0xffffffffffffffffffffffffffffffffffffffffffffffff * Nat.pow 2 192 +
      0xc7634d81f4372ddf581a0db248b0a77aecec196accc52973
  baseX :=
    0xaa87ca22be8b05378eb1c71ef320ad746e1d3b628ba79b98 * Nat.pow 2 192 +
      0x59f741e082542a385502f25dbf55296c3a545e3872760ab7
  baseY :=
    0x3617de4a96262c6f5d9e98bf9292dc29f8f41dbd289a147c * Nat.pow 2 192 +
      0xe9da3113b5f0b8c00a60b1ce1d7e819d7a431d7c90ea0e5f
  width := 48

/-- A point in projective form. -/
structure Point where
  x : Nat
  y : Nat
  z : Nat

/-- The point at infinity. -/
def infinity : Point := ⟨1, 1, 0⟩

/-- The base point. -/
def base (c : Curve) : Point := ⟨c.baseX, c.baseY, 1⟩

/-- The coordinates satisfy the equation of the curve. -/
def contains (c : Curve) (x y : Nat) : Bool :=
  x < c.field && y < c.field &&
    y * y % c.field == Modular.sub c.field (x * x * x + c.b) (3 * x)

/-- Twice a point. -/
def double (c : Curve) (q : Point) : Point :=
  let p := c.field
  let delta := q.z * q.z % p
  let gamma := q.y * q.y % p
  let beta := q.x * gamma % p
  let alpha := 3 * Modular.sub p q.x delta * (q.x + delta) % p
  let x := Modular.sub p (alpha * alpha) (8 * beta)
  let z := 2 * q.y * q.z % p
  let y := Modular.sub p (alpha * Modular.sub p (4 * beta) x) (8 * gamma * gamma)
  ⟨x, y, z⟩

/-- The sum of two points. -/
def add (c : Curve) (q r : Point) : Point :=
  if q.z = 0 then r
  else if r.z = 0 then q
  else
    let p := c.field
    let qz2 := q.z * q.z % p
    let rz2 := r.z * r.z % p
    let u1 := q.x * rz2 % p
    let u2 := r.x * qz2 % p
    let s1 := q.y * r.z * rz2 % p
    let s2 := r.y * q.z * qz2 % p
    let h := Modular.sub p u2 u1
    let d := Modular.sub p s2 s1
    if h = 0 then (if d = 0 then c.double q else infinity)
    else
      let h2 := h * h % p
      let h3 := h * h2 % p
      let v := u1 * h2 % p
      let x := Modular.sub p (d * d) (h3 + 2 * v)
      let y := Modular.sub p (d * Modular.sub p v x) (s1 * h3)
      ⟨x, y, h * q.z * r.z % p⟩

/-- The multiple of a point by a number. -/
def scale (c : Curve) (k : Nat) (q : Point) : Point :=
  (Modular.bits k).foldl (fun acc bit => let t := c.double acc; if bit then c.add t q else t)
    infinity

/-- The coordinates of a point, unless it is the point at infinity. -/
def affine? (c : Curve) (q : Point) : Option (Nat × Nat) :=
  if q.z = 0 then none
  else
    let p := c.field
    let i := Modular.inverse p q.z
    let i2 := i * i % p
    some (q.x * i2 % p, q.y * i2 * i % p)

/-- The point that an uncompressed encoding gives: the byte 4 and both coordinates. -/
def decode? (c : Curve) : Bytes → Option Point
  | 4 :: coordinates =>
    let x := Octets.toNat (coordinates.take c.width)
    let y := Octets.toNat (coordinates.drop c.width)
    if coordinates.length = 2 * c.width ∧ c.contains x y then some ⟨x, y, 1⟩ else none
  | _ => none

/-- The uncompressed encoding of a point. -/
def encode? (c : Curve) (q : Point) : Option Bytes :=
  (c.affine? q).map fun (x, y) => 4 :: (Octets.ofNat c.width x ++ Octets.ofNat c.width y)

end Curve

end TokenLifecycle.Crypto
