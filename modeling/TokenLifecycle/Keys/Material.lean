import TokenLifecycle.Crypto.Asn1
import TokenLifecycle.Crypto.Pem
import TokenLifecycle.Keys.Algorithm

/-!
# Key material

What an armoured key offers to each family of algorithms, as an encoded value that is looked into
only when the key is used.
-/

namespace TokenLifecycle

open Crypto (Asn1 Pem)

/-- Why a key cannot be used. -/
inductive KeyFault
  /-- It is not an armoured key of the family. -/
  | invalidFormat
  /-- It holds no usable key of the curve. -/
  | invalidCurveKey
  /-- It holds no usable RSA key. -/
  | invalidRsaKey (reason : String)
  /-- The key gave no signature. -/
  | signingFailed
  /-- The signature does not verify. -/
  | invalidSignature
  deriving DecidableEq, Repr

/-- The wording of a fault. -/
def KeyFault.message : KeyFault → String
  | invalidFormat => "InvalidKeyFormat"
  | invalidCurveKey => "InvalidEcdsaKey"
  | invalidRsaKey reason => "RSA key invalid: " ++ reason
  | signingFailed => "RsaFailedSigning"
  | invalidSignature => "InvalidSignature"

/-- An armoured key by its kind. -/
inductive KeyMaterial
  /-- A bare RSA key. -/
  | bare (content : Bytes)
  /-- A key with a description of its kind. -/
  | described (family : KeyFamily) (isPrivate : Bool) (content : Bytes) (tree : List Asn1)

namespace KeyMaterial

/-- The family that an object identifier stands for. -/
def familyOf? (arcs : List Nat) : Option KeyFamily :=
  if arcs = [1, 2, 840, 10045, 2, 1] then some .ec
  else if arcs = [1, 2, 840, 113549, 1, 1, 1] then some .rsa
  else if arcs = [1, 3, 101, 112] then some .ed
  else none

/-- The key in an armoured text. -/
def ofText? (text : String) : Option KeyMaterial := do
  let pem ← Pem.ofText? text
  let tree ← Asn1.parts? pem.content
  if pem.label = "RSA PRIVATE KEY" ∨ pem.label = "RSA PUBLIC KEY" then
    return .bare pem.content
  else if pem.label = "PRIVATE KEY" ∨ pem.label = "PUBLIC KEY" ∨ pem.label = "CERTIFICATE" then
    let family ← Asn1.firstIdentifierOf? familyOf? tree
    return .described family (pem.label = "PRIVATE KEY") pem.content tree
  else none

/-- The content of the first string of bytes inside the key. -/
def inner (tree : List Asn1) : Except KeyFault Bytes :=
  match Asn1.firstContentOf? tree with
  | some content => .ok content
  | none => .error .invalidCurveKey

/-- What the material offers as a key of a family, for signing or for verifying. An RSA key serves
both ways. -/
def key (family : KeyFamily) (forSigning : Bool) (m : KeyMaterial) : Except KeyFault Bytes :=
  match family, m with
  | .rsa, .bare content => .ok content
  | .rsa, .described .rsa _ _ tree => inner tree
  | .ec, .described .ec isPrivate content tree => curveKey isPrivate content tree
  | .ed, .described .ed isPrivate content tree => curveKey isPrivate content tree
  | _, _ => .error .invalidFormat
where
  curveKey (isPrivate : Bool) (content : Bytes) (tree : List Asn1) : Except KeyFault Bytes :=
    if isPrivate ≠ forSigning then .error .invalidFormat
    else if forSigning then .ok content
    else inner tree

/-- The key of a family in an armoured text. -/
def keyOfText (family : KeyFamily) (forSigning : Bool) (text : String) : Except KeyFault Bytes :=
  match ofText? text with
  | some m => m.key family forSigning
  | none => .error .invalidFormat

end KeyMaterial

end TokenLifecycle
