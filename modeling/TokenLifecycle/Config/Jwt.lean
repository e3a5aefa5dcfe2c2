import TokenLifecycle.Config.Lookup
import TokenLifecycle.Config.Source
import TokenLifecycle.Error

/-!
# Settings of tokens

The signing algorithm, the key files, and how long tokens live.
-/

namespace TokenLifecycle.Config

open Json (Doc)

/-- Settings of tokens. Lifetimes are in seconds. -/
structure Jwt where
  algorithm : String
  privateKeyPath : String
  publicKeyPath : String
  accessTokenExpiry : Int64
  refreshTokenExpiry : Int64
  issuer : Option String
  leeway : UInt64
  deriving DecidableEq, Repr

namespace Jwt

/-- The settings where nothing is given. -/
def default : Jwt where
  algorithm := "RS256"
  privateKeyPath := "core/keys/jwt_private_key.pem"
  publicKeyPath := "core/keys/jwt_public_key.pem"
  accessTokenExpiry := 7200
  refreshTokenExpiry := 2592000
  issuer := none
  leeway := 0

/-- The settings for an algorithm and two key files. -/
def ofKeyFiles (algorithm privateKeyPath publicKeyPath : String) : Jwt :=
  { default with
    algorithm := algorithm
    privateKeyPath := privateKeyPath
    publicKeyPath := publicKeyPath }

/-- The settings that are looked up. -/
def ofLookup (lookup : Lookup) : Jwt where
  algorithm := (lookup "JWT_SIGN_ALGO").getD default.algorithm
  privateKeyPath := (lookup "JWT_SECRET_KEY").getD default.privateKeyPath
  publicKeyPath := (lookup "JWT_PUBLIC_KEY").getD default.publicKeyPath
  accessTokenExpiry :=
    lookup.parseOr "JWT_ACCESS_TOKEN_EXPIRY" Numeral.int64? default.accessTokenExpiry
  refreshTokenExpiry :=
    lookup.parseOr "JWT_REFRESH_TOKEN_EXPIRY" Numeral.int64? default.refreshTokenExpiry
  issuer := lookup.nonempty? "JWT_ISSUER"
  leeway := lookup.parseOr "JWT_LEEWAY" Numeral.uint64? default.leeway

/-- The product of a number of units and the seconds in a unit. -/
def seconds (count : Int64) (unit : Int) : Outcome Int64 :=
  match Numeral.toInt64? (count.toInt * unit) with
  | some n => .ok n
  | none => .error .overflow

/-- The settings with the lifetime of access tokens in minutes. -/
def withAccessMinutes (c : Jwt) (minutes : Int64) : Outcome Jwt :=
  (seconds minutes 60).map fun n => { c with accessTokenExpiry := n }

/-- The settings with the lifetime of refresh tokens in days. -/
def withRefreshDays (c : Jwt) (days : Int64) : Outcome Jwt :=
  (seconds days 86400).map fun n => { c with refreshTokenExpiry := n }

/-- The settings with an issuer. -/
def withIssuer (c : Jwt) (issuer : String) : Jwt :=
  { c with issuer := some issuer }

/-- The settings as a document. -/
def doc (c : Jwt) : Doc :=
  Doc.ofMembers
    [("algorithm", Doc.text c.algorithm), ("private_key_path", Doc.text c.privateKeyPath),
      ("public_key_path", Doc.text c.publicKeyPath),
      ("access_token_expiry", Doc.int c.accessTokenExpiry.toInt),
      ("refresh_token_expiry", Doc.int c.refreshTokenExpiry.toInt),
      ("issuer", Doc.option Doc.text c.issuer), ("leeway", Doc.nat c.leeway.toNat)]

/-- The names of the members, in order. -/
def fieldNames : List String :=
  ["algorithm", "private_key_path", "public_key_path", "access_token_expiry",
    "refresh_token_expiry", "issuer", "leeway"]

/-- Reads settings from a source. -/
def read? {δ : Type} (src : Source δ) (d : δ) : Option Jwt := do
  let r ← src.record? fieldNames d
  let algorithm ← r.withDefault? "algorithm" src.text? default.algorithm
  let privateKeyPath ← r.required? "private_key_path" src.text?
  let publicKeyPath ← r.required? "public_key_path" src.text?
  let access ← r.withDefault? "access_token_expiry" src.int64? default.accessTokenExpiry
  let refresh ← r.withDefault? "refresh_token_expiry" src.int64? default.refreshTokenExpiry
  let issuer ← r.withDefault? "issuer" (src.option? src.text?) none
  let leeway ← r.withDefault? "leeway" src.uint64? 0
  return ⟨algorithm, privateKeyPath, publicKeyPath, access, refresh, issuer, leeway⟩

end Jwt

end TokenLifecycle.Config
