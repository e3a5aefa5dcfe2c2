import TokenLifecycle.Crypto.Curve

/-!
# Signatures on elliptic curves

A signature is a pair of numbers `(r, s)`, written as two fields of the width of a coordinate.
-/

namespace TokenLifecycle.Crypto.Ecdsa

/-- A signature of a digest under the secret number `secret`. The digest counts as a number of at
most as many bits as the order. A signature whose numbers would be zero does not exist. -/
def sign? (c : Curve) (secret nonce : Nat) (digest : Bytes) : Option Bytes := do
  let k := nonce % (c.order - 1) + 1
  let (x, _) ← c.affine? (c.scale k c.base)
  let r := x % c.order
  let s := Modular.inverse c.order k * (Octets.toNat digest + r * secret) % c.order
  if r = 0 ∨ s = 0 then none else some (Octets.ofNat c.width r ++ Octets.ofNat c.width s)

/-- The signature is one of the digest under the public point. -/
def verify (c : Curve) (point : Curve.Point) (digest signature : Bytes) : Bool :=
  let r := Octets.toNat (signature.take c.width)
  let s := Octets.toNat (signature.drop c.width)
  if signature.length ≠ 2 * c.width ∨ r = 0 ∨ s = 0 ∨ c.order ≤ r ∨ c.order ≤ s then false
  else
    let w := Modular.inverse c.order s
    let u := Octets.toNat digest * w % c.order
    let v := r * w % c.order
    match c.affine? (c.add (c.scale u c.base) (c.scale v point)) with
    | some (x, _) => x % c.order == r
    | none => false

end TokenLifecycle.Crypto.Ecdsa
