import TokenLifecycle.Crypto.Ecdsa
import TokenLifecycle.Crypto.Ed25519
import TokenLifecycle.Crypto.Rsa
import TokenLifecycle.Keys.Material

/-!
# Signing and verifying

How an encoded key signs messages and verifies signatures under an algorithm. Random numbers that a
signature needs are handed in.
-/

namespace TokenLifecycle

open Crypto

/-- Random bytes that a signature may use up. -/
abbrev Entropy := Bytes

/-- Gives the signature of a message, unless the key turns out not to work. -/
abbrev Signer := Entropy → Bytes → Option Bytes

/-- Tells whether a signature is one of a message. -/
abbrev Verifier := Bytes → Bytes → Bool

namespace Keys

/-- How an algorithm signs. -/
inductive Scheme
  | rsa (padding : Rsa.Padding) (hash : Rsa.Hash)
  | ecdsa (curve : Curve) (hash : Bytes → Bytes) (curveArcs : Bytes)
  | ed25519

/-- The scheme of an asymmetric algorithm. -/
def scheme? : Algorithm → Option Scheme
  | .rs256 => some (.rsa .fixed .sha256)
  | .rs384 => some (.rsa .fixed .sha384)
  | .rs512 => some (.rsa .fixed .sha512)
  | .ps256 => some (.rsa .salted .sha256)
  | .ps384 => some (.rsa .salted .sha384)
  | .ps512 => some (.rsa .salted .sha512)
  | .es256 => some (.ecdsa .p256 Sha2.sha256 [6, 8, 42, 134, 72, 206, 61, 3, 1, 7])
  | .es384 => some (.ecdsa .p384 Sha2.sha384 [6, 5, 43, 129, 4, 0, 34])
  | .edDSA => some .ed25519
  | _ => none

/-- The private key inside a described key: behind the version and the given kind, before optional
attributes. The second version of the format has a public key at the end, as a bit string or as its
content. -/
def privateKey? (kind : Bytes) (withPublic : Bool) (bs : Bytes) :
    Option (Bytes × Option Bytes) := do
  let content ← Der.only? 48 bs
  let (version, content) ← Der.small? content
  let (actualKind, content) ← Der.expect? 48 content
  if actualKind ≠ kind then none
  let (key, content) ← Der.expect? 4 content
  let content ←
    match content with
    | 160 :: _ => (Der.expect? 160 content).map (·.2)
    | _ => some content
  if version = 0 then
    if content.isEmpty then some (key, none) else none
  else if version = 1 ∧ withPublic then do
    let point ←
      match content with
      | 129 :: _ => (Der.only? 129 content).bind Der.wholeBytes?
      | _ => (Der.only? 161 content).bind Der.wholeBits?
    return (key, some point)
  else none

/-- The secret number of a key on a curve. The key states the public point too, which has to be
the right one. -/
def curveSecret? (c : Curve) (curveArcs key : Bytes) : Option Nat := do
  let kind : Bytes := [6, 7, 42, 134, 72, 206, 61, 2, 1] ++ curveArcs
  let (inner, _) ← privateKey? kind false key
  let content ← Der.only? 48 inner
  let (version, content) ← Der.small? content
  if version ≠ 1 then none
  let (secret, content) ← Der.expect? 4 content
  let content ←
    match content with
    | 160 :: _ =>
      match Der.expect? 160 content with
      | some (arcs, rest) => if arcs = curveArcs then some rest else none
      | none => none
    | _ => some content
  let point ← (Der.only? 161 content).bind Der.wholeBits?
  let n := Octets.toNat secret
  if secret.length ≠ c.width ∨ n = 0 ∨ c.order ≤ n then none
  if c.encode? (c.scale n c.base) = some point then some n else none

/-- The secret of an Ed25519 key. A public key beside it has to be the right one. -/
def edSecret? (key : Bytes) : Option Bytes := do
  let (inner, stated) ← privateKey? [6, 3, 43, 101, 112] true key
  let seed ← Der.only? 4 inner
  if seed.length ≠ 32 then none
  match stated with
  | none => some seed
  | some point => if Ed25519.publicKey seed = point then some seed else none

/-- The signer of an encoded private key. -/
def signer (s : Scheme) (key : Bytes) : Except KeyFault Signer :=
  match s with
  | .rsa padding hash =>
    match Rsa.PrivateKey.ofDer key with
    | .ok k => .ok fun entropy message => Rsa.sign? padding hash k entropy message
    | .error fault => .error (.invalidRsaKey fault.name)
  | .ecdsa curve hash curveArcs =>
    match curveSecret? curve curveArcs key with
    | some n => .ok fun entropy message => Ecdsa.sign? curve n (Octets.toNat entropy) (hash message)
    | none => .error .invalidCurveKey
  | .ed25519 =>
    match edSecret? key with
    | some seed => .ok fun _ message => some (Ed25519.sign seed message)
    | none => .error .invalidCurveKey

/-- The verifier of an encoded public key. A key that cannot be read verifies nothing. -/
def verifier (s : Scheme) (key : Bytes) : Verifier :=
  match s with
  | .rsa padding hash =>
    match Rsa.PublicKey.ofDer? key with
    | some k => fun message signature => Rsa.verify padding hash k message signature
    | none => fun _ _ => false
  | .ecdsa curve hash _ =>
    match curve.decode? key with
    | some point => fun message signature => Ecdsa.verify curve point (hash message) signature
    | none => fun _ _ => false
  | .ed25519 => fun message signature => Ed25519.verify key message signature

end Keys

end TokenLifecycle
