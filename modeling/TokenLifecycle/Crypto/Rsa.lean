import TokenLifecycle.Crypto.Der
import TokenLifecycle.Crypto.Modular
import TokenLifecycle.Crypto.Sha2

/-!
# RSA signatures

Keys of 2048 bits and more, signatures with the older padding and with the probabilistic one.
-/

namespace TokenLifecycle.Crypto.Rsa

/-- A digest that signatures are made of. -/
structure Hash where
  digest : Bytes → Bytes
  size : Nat
  /-- The last arc of the digest's identifier. -/
  arc : UInt8

def Hash.sha256 : Hash := ⟨Sha2.sha256, 32, 1⟩

def Hash.sha384 : Hash := ⟨Sha2.sha384, 48, 2⟩

def Hash.sha512 : Hash := ⟨Sha2.sha512, 64, 3⟩

/-- How a message is brought to the size of the modulus. -/
inductive Padding
  /-- The digest behind a fixed filling. -/
  | fixed
  /-- The digest masked with a salt of the size of the digest. -/
  | salted
  deriving DecidableEq, Repr

/-- Why a key is refused. -/
inductive KeyFault
  | invalidEncoding
  | versionNotSupported
  | tooSmall
  | tooLarge
  | invalidComponent
  | inconsistentComponents
  | privateModulusLength
  | unexpected
  deriving DecidableEq, Repr

/-- The name of a fault. -/
def KeyFault.name : KeyFault → String
  | .invalidEncoding => "InvalidEncoding"
  | .versionNotSupported => "VersionNotSupported"
  | .tooSmall => "TooSmall"
  | .tooLarge => "TooLarge"
  | .invalidComponent => "InvalidComponent"
  | .inconsistentComponents => "InconsistentComponents"
  | .privateModulusLength => "PrivateModulusLenNotMultipleOf512Bits"
  | .unexpected => "UnexpectedError"

/-- A public key. -/
structure PublicKey where
  modulus : Nat
  exponent : Nat

/-- A private key. -/
structure PrivateKey where
  toPublicKey : PublicKey
  p : Nat
  q : Nat
  exponentP : Nat
  exponentQ : Nat
  /-- The inverse of `q` modulo `p`. -/
  coefficient : Nat

/-- Reads an odd number that can serve as a modulus: of four words of 64 bits at least, and of 128
at most. -/
def readModulus (bs : Bytes) : Except KeyFault Nat :=
  let words := (bs.length + 7) / 8
  if words < 4 then .error .unexpected
  else if 128 < words then .error .tooLarge
  else if Octets.toNat bs % 2 = 0 then .error .invalidComponent
  else .ok (Octets.toNat bs)

/-- Checks the size and the parity of the components of a public key. -/
def PublicKey.check (n e : Bytes) (maxBits minExponent : Nat) : Except KeyFault PublicKey := do
  let n ← readModulus n
  if 8 * Octets.byteLength n < 2048 then throw .tooSmall
  if maxBits < Octets.bitLength n then throw .tooLarge
  if 5 < e.length then throw .tooLarge
  let e := Octets.toNat e
  if e = 0 then throw .invalidEncoding
  if e < minExponent then throw .tooSmall
  if Nat.pow 2 33 - 1 < e then throw .tooLarge
  if e % 2 = 0 then throw .invalidComponent
  return ⟨n, e⟩

/-- The public key that an encoded value holds: a sequence of modulus and exponent. -/
def PublicKey.ofDer? (bs : Bytes) : Option PublicKey := do
  let content ← Der.only? 48 bs
  match ← Der.naturals? 2 content with
  | ([n, e], []) => (PublicKey.check n e 8192 3).toOption
  | _ => none

/-- Reads a prime of a private key, which has half the bits of the modulus. -/
def readPrime (half : Nat) (bs : Bytes) : Except KeyFault Nat := do
  let p ← readModulus bs
  if Octets.bitLength p ≠ half then throw .inconsistentComponents
  if half % 512 ≠ 0 then throw .privateModulusLength
  return p

/-- Checks the components of a private key: the modulus, the two exponents, the primes, the
exponents modulo the primes, and the inverse of the second prime. -/
def PrivateKey.check (n e d p q dp dq inv : Bytes) : Except KeyFault PrivateKey := do
  let key ← PublicKey.check n e 4096 65537
  let half := (Octets.bitLength key.modulus + 1) / 2
  let p ← readPrime half p
  let q ← readPrime half q
  if p * q % key.modulus ≠ 0 then throw .inconsistentComponents
  let d ← (readModulus d).mapError fun _ => .invalidComponent
  if Octets.bitLength d ≤ half ∨ key.modulus ≤ d then throw .inconsistentComponents
  let dp := Octets.toNat dp
  let dq := Octets.toNat dq
  if p ≤ dp ∨ dp % 2 = 0 ∨ q ≤ dq ∨ dq % 2 = 0 then throw .inconsistentComponents
  let inv := Octets.toNat inv
  if p ≤ inv then throw .invalidComponent
  if inv * q % p ≠ 1 then throw .inconsistentComponents
  return ⟨key, p, q, dp, dq, inv⟩

/-- The private key that an encoded value holds: a sequence of a version and eight numbers. That
nothing follows them is checked last. -/
def PrivateKey.ofDer (bs : Bytes) : Except KeyFault PrivateKey := do
  let some (content, behind) := Der.expect? 48 bs | throw .invalidEncoding
  let some (version, content) := Der.small? content | throw .invalidEncoding
  if version ≠ 0 then throw .versionNotSupported
  let some ([n, e, d, p, q, dp, dq, inv], rest) := Der.naturals? 8 content
    | throw .invalidEncoding
  let key ← PrivateKey.check n e d p q dp dq inv
  if rest.isEmpty && behind.isEmpty then return key
  throw .invalidEncoding

/-- The number of bytes of the modulus. -/
def PublicKey.size (k : PublicKey) : Nat :=
  Octets.byteLength k.modulus

/-- The power of a number that undoes the private operation. -/
def PublicKey.power (k : PublicKey) (x : Nat) : Nat :=
  Modular.pow k.modulus x k.exponent

/-- The root of a number, put together from the roots modulo the primes; nothing when the exponents
of the key do not fit. -/
def PrivateKey.root? (k : PrivateKey) (x : Nat) : Option Nat :=
  let a := Modular.pow k.p (x % k.p) k.exponentP
  let b := Modular.pow k.q (x % k.q) k.exponentQ
  let h := Modular.sub k.p a b * k.coefficient % k.p
  let y := (b + h * k.q) % k.toPublicKey.modulus
  if k.toPublicKey.power y = x then some y else none

/-- The filling with the digest of the message, `size` bytes long. -/
def fixedBlock (h : Hash) (size : Nat) (message : Bytes) : Bytes :=
  let s := UInt8.ofNat h.size
  let info : Bytes :=
    [48, 17 + s, 48, 13, 6, 9, 96, 134, 72, 1, 101, 3, 4, 2, h.arc, 5, 0, 4, s] ++
      h.digest message
  0 :: 1 :: List.replicate (size - 3 - info.length) 255 ++ 0 :: info

/-- `length` bytes that depend on a seed in an unpredictable way. -/
def mask (h : Hash) (seed : Bytes) (length : Nat) : Bytes :=
  ((List.range (length / h.size + 1)).flatMap fun i =>
    h.digest (seed ++ Octets.ofNat 4 i)).take length

/-- The bytes with the bits above the given count, counted over all of them, set to zero. -/
def clearAbove (bits : Nat) (bs : Bytes) : Bytes :=
  Octets.ofNat bs.length (Octets.toNat bs % Nat.pow 2 bits)

/-- The digest that binds the message and the salt. -/
def saltedDigest (h : Hash) (message salt : Bytes) : Bytes :=
  h.digest (List.replicate 8 0 ++ h.digest message ++ salt)

/-- The block of the given number of bits for a message and a salt. -/
def saltedBlock (h : Hash) (bits : Nat) (message salt : Bytes) : Bytes :=
  let size := (bits + 7) / 8
  let bound := saltedDigest h message salt
  let room := size - h.size - 1
  let plain := List.replicate (room - h.size - 1) 0 ++ 1 :: salt
  clearAbove (bits - 8 * (h.size + 1)) (Octets.xor plain (mask h bound room)) ++ bound ++ [188]

/-- The salt that a block holds, if it is a block of the given number of bits. -/
def salt? (h : Hash) (bits : Nat) (block : Bytes) : Option Bytes :=
  let size := (bits + 7) / 8
  let room := size - h.size - 1
  let masked := block.take room
  let bound := (block.drop room).take h.size
  let clear := clearAbove (bits - 8 * (h.size + 1)) (Octets.xor masked (mask h bound room))
  if block.length = size ∧ 2 * h.size + 2 ≤ size ∧ block.drop (size - 1) = [188] ∧
      clearAbove (bits - 8 * (h.size + 1)) masked = masked ∧
      clear.take (room - h.size) = List.replicate (room - h.size - 1) 0 ++ [1] then
    some (clear.drop (room - h.size))
  else none

/-- The number of bits of a salted block. -/
def PublicKey.blockBits (k : PublicKey) : Nat :=
  Octets.bitLength k.modulus - 1

/-- The signature of a message. -/
def sign? (padding : Padding) (h : Hash) (k : PrivateKey) (salt message : Bytes) :
    Option Bytes :=
  let size := k.toPublicKey.size
  let block :=
    match padding with
    | .fixed => fixedBlock h size message
    | .salted => saltedBlock h k.toPublicKey.blockBits message (salt.take h.size)
  (k.root? (Octets.toNat block)).map (Octets.ofNat size)

/-- The signature is one of the message under the public key. -/
def verify (padding : Padding) (h : Hash) (k : PublicKey) (message signature : Bytes) : Bool :=
  let s := Octets.toNat signature
  if signature.length ≠ k.size ∨ k.modulus ≤ s then false
  else
    let x := k.power s
    match padding with
    | .fixed => Octets.ofNat k.size x == fixedBlock h k.size message
    | .salted =>
      let bits := k.blockBits
      let size := (bits + 7) / 8
      if Octets.byteLength x ≤ size then
        let block := Octets.ofNat size x
        match salt? h bits block with
        | some salt =>
          (block.drop (size - h.size - 1)).take h.size == saltedDigest h message salt
        | none => false
      else false

end TokenLifecycle.Crypto.Rsa
