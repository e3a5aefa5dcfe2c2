import TokenLifecycle.Keys.KeyPair
import TokenLifecycle.Time.Rfc3339
import TokenLifecycle.Token.Claims
import TokenLifecycle.Token.Identifier
import TokenLifecycle.Token.Registered

/-!
# Minting and verifying tokens

A codec mints tokens with its private key and its issuer, and verifies tokens with its public key.
A token that fails several checks is refused for the first of them.
-/

namespace TokenLifecycle

open Json (Doc)

/-- Chance, as one token uses it: its identifier, and the random bytes of its signature. -/
structure Draw where
  jti : String
  entropy : Entropy

/-- A draw from random bytes: sixteen of them for the identifier, the others for the signature. -/
def Draw.ofBytes (bs : Bytes) : Draw :=
  ⟨Identifier.ofRandom (Crypto.Octets.toNat (bs.take 16)), bs.drop 16⟩

/-- What the wall clock reads as a date. It cannot be read before 1970: whatever asks for the date
ends there. -/
def Instant.read (now : Instant) : Outcome Instant :=
  if now.seconds < 0 then .error .overflow else .ok now

/-- A codec. -/
structure Codec where
  keys : KeyPair
  issuer : Option String
  /-- For how many seconds behind its expiry a token is still accepted. -/
  leeway : UInt64

namespace Codec

/-- A token for a principal, valid from an instant on for a lifetime of a second at least. -/
def mint (c : Codec) (start : Instant) (uid : Int64) (lifetime : Span) (draw : Draw) :
    Outcome String :=
  if uid = 0 then refuse (.validation "principal id must be non-zero")
  else if lifetime.wholeSeconds ≤ 0 then
    refuse (.validation
      ("token lifetime must be at least one second, got " ++ lifetime.render))
  else
    let claims := Claims.issue uid start lifetime draw.jti c.issuer
    let message := Compact.message ⟨c.keys.algorithm⟩ claims.doc
    match c.keys.sign draw.entropy message with
    | some signature => .ok (Compact.text message signature)
    | none => refuse .tokenGenerationFailed

/-- A token that is valid from the reading of the wall clock on. -/
def mintNow (c : Codec) (now : Instant) (uid : Int64) (lifetime : Span) (draw : Draw) :
    Outcome String :=
  match now.read with
  | .error f => .error f
  | .ok start => c.mint start uid lifetime draw

/-- The document in a part of a token. -/
def partDoc? (part : Bytes) : Option Doc :=
  (Compact.content? part).bind Doc.ofBytes?

/-- What a token shows to everyone: the text of its header, its claims and the size of its
signature. -/
structure Preview where
  header : String
  claims : Claims
  signatureSize : Nat

/-- Looks into a token without checking it. -/
def preview? (token : String) : Option Preview := do
  let p ← Compact.parts? token
  let header ← (Compact.content? p.header).bind Text.ofBytes?
  let claims ← (partDoc? p.payload).bind Claims.ofDoc?
  let signature ← Compact.content? p.signature
  return ⟨header, claims, signature.length⟩

/-- Checks expiry, issuer and audience. The clock must not be before its epoch, nor before the
leeway. -/
def check (c : Codec) (now : Instant) (r : Registered) : Outcome Unit :=
  match r.expiry with
  | none => refuse .invalidClaims
  | some expiry =>
    if c.issuer.isSome && r.issuer.isNone then refuse .invalidClaims
    else if now.seconds < c.leeway.toNat then .error .overflow
    else if expiry + c.leeway.toNat < now.seconds then refuse .tokenExpired
    else if c.issuer.isSome && r.issuer ≠ c.issuer then refuse .invalidClaims
    else if r.hasAudience then refuse .invalidTokenFormat
    else .ok ()

/-- The payload of a token whose signature is valid. -/
def signedPayload (c : Codec) (token : String) : Outcome Bytes :=
  match Compact.parts? token with
  | none => refuse .invalidTokenFormat
  | some p =>
    match (partDoc? p.header).bind Header.ofDoc? with
    | none => refuse .invalidTokenFormat
    | some header =>
      if header.algorithm ≠ c.keys.algorithm then refuse .invalidTokenFormat
      else
        match Compact.content? p.signature with
        | none => refuse .invalidTokenFormat
        | some signature =>
          if c.keys.verify p.message signature then .ok p.payload else refuse .invalidSignature

/-- The claims in a payload that pass all checks. -/
def accept (c : Codec) (now : Instant) (payload : Bytes) : Outcome Claims :=
  match partDoc? payload with
  | none => refuse .invalidTokenFormat
  | some d =>
    match Claims.ofDoc? d, Registered.ofDoc? d with
    | some claims, some registered =>
      match c.check now registered with
      | .error f => .error f
      | .ok () =>
        if claims.uid = 0 ∨ claims.expiry ≤ claims.issuedAt then refuse .invalidClaims
        else .ok claims
    | _, _ => refuse .invalidTokenFormat

/-- The claims of a token that passes all checks. -/
def verify (c : Codec) (now : Instant) (token : String) : Outcome Claims :=
  match c.signedPayload token with
  | .error f => .error f
  | .ok payload => c.accept now payload

end Codec

end TokenLifecycle
