import TokenLifecycle.Crypto.Modular
import TokenLifecycle.Crypto.Sha2

/-!
# Ed25519 signatures

The curve `-x ^ 2 + y ^ 2 = 1 + d x ^ 2 y ^ 2` over the field of `2 ^ 255 - 19` elements. Points are
kept as `(x / z, y / z)` with `t = x y / z`.
-/

namespace TokenLifecycle.Crypto.Ed25519

/-- The size of the field. -/
def field : Nat := Nat.pow 2 255 - 19

/-- The order of the base point. -/
def order : Nat := Nat.pow 2 252 + 27742317777372353535851937790883648493

/-- The coefficient of the curve. -/
def d : Nat := Modular.sub field 0 (121665 * Modular.inverse field 121666)

/-- A square root of minus one. -/
def rootOfMinusOne : Nat := Modular.pow field 2 ((field - 1) / 4)

/-- A point. -/
structure Point where
  x : Nat
  y : Nat
  z : Nat
  t : Nat

/-- The neutral point. -/
def neutral : Point := ⟨0, 1, 1, 0⟩

/-- The sum of two points. -/
def add (p q : Point) : Point :=
  let a := Modular.sub field p.y p.x * Modular.sub field q.y q.x % field
  let b := (p.y + p.x) * (q.y + q.x) % field
  let c := 2 * p.t * q.t * d % field
  let s := 2 * p.z * q.z % field
  let e := Modular.sub field b a
  let f := Modular.sub field s c
  let g := (s + c) % field
  let h := (b + a) % field
  ⟨e * f % field, g * h % field, f * g % field, e * h % field⟩

/-- The multiple of a point by a number. -/
def scale (k : Nat) (p : Point) : Point :=
  (Modular.bits k).foldl (fun acc bit => let s := add acc acc; if bit then add s p else s) neutral

/-- The point with the opposite sign. -/
def neg (p : Point) : Point :=
  ⟨Modular.sub field 0 p.x, p.y, p.z, Modular.sub field 0 p.t⟩

/-- The encoding of a point: the ordinate, and the parity of the abscissa in the highest bit. -/
def encode (p : Point) : Bytes :=
  let i := Modular.inverse field p.z
  let x := p.x * i % field
  let y := p.y * i % field
  Octets.ofNatReversed 32 (y + x % 2 * Nat.pow 2 255)

/-- The point with the given ordinate and parity of the abscissa. -/
def lift? (y parity : Nat) : Option Point :=
  let u := Modular.sub field (y * y) 1
  let v := (d * (y * y % field) + 1) % field
  let w := u * Modular.inverse field v % field
  let guess := Modular.pow field w ((field + 3) / 8)
  let root :=
    if guess * guess % field = w then some guess
    else
      let other := guess * rootOfMinusOne % field
      if other * other % field = w then some other else none
  root.map fun x =>
    let x := if x % 2 = parity then x else Modular.sub field 0 x
    ⟨x, y, 1, x * y % field⟩

/-- The point that 32 bytes encode. -/
def decode? (bs : Bytes) : Option Point :=
  let n := Octets.toNat bs.reverse
  if bs.length = 32 then lift? (n % Nat.pow 2 255 % field) (n / Nat.pow 2 255) else none

/-- The base point has the ordinate 4/5 and an even abscissa. -/
def base : Point :=
  (lift? (4 * Modular.inverse field 5 % field) 0).getD neutral

/-- The digest of a string of bytes as a number, the least significant byte first. -/
def digest (bs : Bytes) : Nat :=
  Octets.toNat (Sha2.sha512 bs).reverse

/-- The secret number and the seed for nonces that belong to a secret of 32 bytes. -/
def expand (seed : Bytes) : Nat × Bytes :=
  let h := Sha2.sha512 seed
  let n := Octets.toNat (h.take 32).reverse % Nat.pow 2 254
  (n - n % 8 + Nat.pow 2 254, h.drop 32)

/-- The public key of a secret. -/
def publicKey (seed : Bytes) : Bytes :=
  encode (scale (expand seed).1 base)

/-- The signature of a message. -/
def sign (seed message : Bytes) : Bytes :=
  let (secret, nonceSeed) := expand seed
  let r := digest (nonceSeed ++ message) % order
  let commitment := encode (scale r base)
  let k := digest (commitment ++ publicKey seed ++ message) % order
  commitment ++ Octets.ofNatReversed 32 ((r + k * secret) % order)

/-- The signature is one of the message under the public key. -/
def verify (key message signature : Bytes) : Bool :=
  let commitment := signature.take 32
  let s := Octets.toNat (signature.drop 32).reverse
  if signature.length ≠ 64 ∨ order ≤ s then false
  else
    match decode? key with
    | none => false
    | some a =>
      let k := digest (commitment ++ key ++ message) % order
      encode (add (scale s base) (neg (scale k a))) == commitment

end TokenLifecycle.Crypto.Ed25519
