import TokenLifecycle.Error
import TokenLifecycle.Keys.Signer
import TokenLifecycle.Token.Compact

/-!
# Key pairs

A private and a public key that were shown to belong together: a probe signed with the one has been
verified with the other.
-/

namespace TokenLifecycle

open Json (Doc)

/-- A signer and a verifier under an algorithm. -/
structure KeyPair where
  algorithm : Algorithm
  sign : Signer
  verify : Verifier

namespace KeyPair

/-- The message that is signed to try out a pair. -/
def probe (a : Algorithm) : Bytes :=
  Compact.message ⟨a⟩ (Doc.ofMembers [("probe", .bool true)])

/-- Why no pair came about, in words. -/
inductive LoadFault
  | privateKey (a : Algorithm) (fault : KeyFault)
  | publicKey (a : Algorithm) (fault : KeyFault)
  | cannotSign (fault : KeyFault)
  | mismatch (fault : KeyFault)
  deriving DecidableEq, Repr

/-- The wording of a fault. -/
def LoadFault.message : LoadFault → String
  | privateKey a f => "Invalid private key for " ++ a.name ++ ": " ++ f.message
  | publicKey a f => "Invalid public key for " ++ a.name ++ ": " ++ f.message
  | cannotSign f => "Private key cannot sign: " ++ f.message
  | mismatch f => "Public key does not match private key: " ++ f.message

/-- The pair of two encoded keys, tried out with the given random bytes. -/
def ofKeys (a : Algorithm) (s : Keys.Scheme) (privateKey publicKey : Bytes) (entropy : Entropy) :
    Except LoadFault KeyPair := do
  let signer ←
    match Keys.signer s privateKey with
    | .ok signer => pure signer
    | .error fault => throw (.cannotSign fault)
  let verifier := Keys.verifier s publicKey
  match signer entropy (probe a) with
  | none => throw (.cannotSign .signingFailed)
  | some signature =>
    if verifier (probe a) signature then return ⟨a, signer, verifier⟩
    else throw (.mismatch .invalidSignature)

/-- The pair in two armoured texts. -/
def ofTexts (a : Algorithm) (family : KeyFamily) (s : Keys.Scheme)
    (privateText publicText : String) (entropy : Entropy) : Except LoadFault KeyPair := do
  let privateKey ←
    match KeyMaterial.keyOfText family true privateText with
    | .ok key => pure key
    | .error fault => throw (.privateKey a fault)
  let publicKey ←
    match KeyMaterial.keyOfText family false publicText with
    | .ok key => pure key
    | .error fault => throw (.publicKey a fault)
  ofKeys a s privateKey publicKey entropy

end KeyPair

end TokenLifecycle
